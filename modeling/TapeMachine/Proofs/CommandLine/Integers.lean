import Mathlib.Data.Nat.Digits.Defs
import TapeMachine.Proofs.CommandLine.Composition

/-! Integer arguments. A word for an integer parameter is read with 64 bits, whatever the type of
the parameter, and what it spells is then cut down to the bits of the type. A number that the type
holds comes through as it is; one that only 64 bits hold comes through as another number, and no
error is given.
-/

namespace TapeMachine.CommandLine

-----------------------------------------------------------------------------------------
-- What words spell
-----------------------------------------------------------------------------------------

/-- The value of a decimal digit. -/
def digitValue (c : Char) : Nat :=
  c.toNat - '0'.toNat

/-- The number that decimal digits write, the most significant first. -/
def decimalValue (digits : List Char) : Nat :=
  Nat.ofDigits 10 (digits.reverse.map digitValue)

/-- Decimal digits, at least one, write a number. -/
structure Numeral (digits : List Char) (number : Nat) : Prop where
  nonempty : digits ≠ []
  decimal : ∀ c ∈ digits, c.isDigit = true
  value : number = decimalValue digits

/-- A text writes an integer in base 10: with digits and, where signs are allowed, maybe a sign in
front of them.
-/
inductive Spells (signed : Bool) : List Char → Int → Prop
  | plain {digits number} (numeral : Numeral digits number)
    : Spells signed digits number
  | positive {digits number} (allowed : signed = true) (numeral : Numeral digits number)
    : Spells signed ('+' :: digits) number
  | negative {digits number} (allowed : signed = true) (numeral : Numeral digits number)
    : Spells signed ('-' :: digits) (-number)

theorem decimalValue_cons (c : Char) (digits : List Char)
    : decimalValue (c :: digits)
      = digitValue c * 10 ^ digits.length + decimalValue digits := by
  simp [decimalValue, Nat.ofDigits_append, Nat.add_comm, Nat.mul_comm]

theorem readDigits_cons (number : Nat) (c : Char) (rest : List Char)
    : readDigits number (c :: rest)
      = if c.isDigit = true then
          if number * 10 + digitValue c < 0x10000000000000000 then
            readDigits (number * 10 + digitValue c) rest
          else .error .range
        else .error .syntax_ := by
  rw [readDigits]
  cases c.isDigit <;> rfl

/-- Characters are read behind a number exactly if they are digits and the number that they write
behind it has 64 bits; by induction on the characters. A digit too many makes the number too great,
whatever follows.
-/
theorem readDigits_eq_ok_iff {digits : List Char}
    : ∀ {number value : Nat},
        number < 0x10000000000000000
        → (readDigits number digits = .ok value
            ↔ (∀ c ∈ digits, c.isDigit = true)
              ∧ value = number * 10 ^ digits.length + decimalValue digits
              ∧ value < 0x10000000000000000) := by
  induction digits with
  | nil =>
      intro number value small
      have none : decimalValue [] = 0 := rfl
      simp only [readDigits, Except.ok.injEq, List.not_mem_nil, false_implies, implies_true,
        true_and, List.length_nil, pow_zero, mul_one]
      omega
  | cons c digits ih =>
      intro number value small
      have shifted
          : number * 10 ^ (c :: digits).length + decimalValue (c :: digits)
            = (number * 10 + digitValue c) * 10 ^ digits.length + decimalValue digits := by
        rw [decimalValue_cons, List.length_cons, pow_succ]
        ring
      rw [shifted, List.forall_mem_cons, readDigits_cons]
      by_cases digit : c.isDigit = true
      · by_cases next : number * 10 + digitValue c < 0x10000000000000000
        · rw [if_pos digit, if_pos next, ih next, and_iff_right digit]
        · have positive : 0 < 10 ^ digits.length := Nat.pow_pos (by decide)
          have wide := Nat.le_mul_of_pos_right (number * 10 + digitValue c) positive
          rw [if_pos digit, if_neg next]
          simp only [reduceCtorEq, false_iff]
          omega
      · rw [if_neg digit]
        simp [digit]

theorem numeral_iff {digits : List Char} {number : Nat} (nonempty : digits ≠ [])
    : readDigits 0 digits = .ok number
      ↔ Numeral digits number ∧ number < 0x10000000000000000 := by
  rw [readDigits_eq_ok_iff (by decide), Nat.zero_mul, Nat.zero_add]
  constructor
  · rintro ⟨decimal, value, fits⟩
    exact ⟨⟨nonempty, decimal, value⟩, fits⟩
  · rintro ⟨numeral, fits⟩
    exact ⟨numeral.decimal, numeral.value, fits⟩

theorem readUnsigned_eq_ok_iff {word : String} {number : Nat}
    : readUnsigned word = .ok number
      ↔ Numeral word.toList number ∧ number < 0x10000000000000000 := by
  unfold readUnsigned
  split
  · rename_i empty
    simp only [reduceCtorEq, false_iff, empty]
    exact fun numeral => numeral.1.nonempty rfl
  · rename_i digits nonempty
    exact numeral_iff nonempty

/-- Whether an integer begins with a minus sign, and what stands behind its sign. -/
def splitSign : List Char → Bool × List Char
  | '-' :: rest => (true, rest)
  | '+' :: rest => (false, rest)
  | rest => (false, rest)

/-- The integer that is read from the digits behind a sign. -/
def readMagnitude (negative : Bool) (digits : List Char) : Except NumberError Int := do
  if digits.isEmpty then throw .syntax_
  let size ← readDigits 0 digits
  if negative then
    if size ≤ 0x8000000000000000 then return -(size : Int) else throw .range
  else
    if size < 0x8000000000000000 then return size else throw .range

theorem readSigned_eq (word : String)
    : readSigned word
      = readMagnitude (splitSign word.toList).1 (splitSign word.toList).2 := by
  rfl

theorem splitSign_of_decimal {digits : List Char}
    (decimal : ∀ c ∈ digits, c.isDigit = true)
    : splitSign digits = (false, digits) := by
  unfold splitSign
  split
  · exact absurd (decimal '-' List.mem_cons_self) (by decide)
  · exact absurd (decimal '+' List.mem_cons_self) (by decide)
  · rfl

/-- A signed integer is a number with its sign split off. -/
theorem spells_iff {digits : List Char} {value : Int}
    : Spells true digits value
      ↔ ∃ number : Nat,
          Numeral (splitSign digits).2 number
          ∧ value = if (splitSign digits).1 then -(number : Int) else number := by
  constructor
  · intro spells
    cases spells with
    | plain numeral =>
        rw [splitSign_of_decimal numeral.decimal]
        exact ⟨_, numeral, rfl⟩
    | positive _ numeral | negative _ numeral => exact ⟨_, numeral, rfl⟩
  · rintro ⟨number, numeral, rfl⟩
    unfold splitSign at *
    split at numeral
    · exact .negative rfl numeral
    · exact .positive rfl numeral
    · exact .plain numeral

theorem spells_unsigned_iff {digits : List Char} {value : Int}
    : Spells false digits value ↔ ∃ number : Nat, Numeral digits number ∧ value = number := by
  constructor
  · intro spells
    cases spells with
    | plain numeral => exact ⟨_, numeral, rfl⟩
    | positive allowed | negative allowed => cases allowed
  · rintro ⟨number, numeral, rfl⟩
    exact .plain numeral

/-- The digits behind a sign are read exactly if they write a number and the integer has 64 bits. -/
theorem readMagnitude_eq_ok_iff {negative : Bool} {digits : List Char} {value : Int}
    : readMagnitude negative digits = .ok value
      ↔ ∃ number : Nat,
          Numeral digits number
          ∧ value = (if negative then -(number : Int) else number)
          ∧ -0x8000000000000000 ≤ value
          ∧ value < 0x8000000000000000 := by
  unfold readMagnitude
  by_cases empty : digits = []
  · subst empty
    constructor
    · intro read
      cases read
    · rintro ⟨_, numeral, _⟩
      exact absurd rfl numeral.nonempty
  · have some : digits.isEmpty = false := by simpa using empty
    simp only [some, Bool.false_eq_true, if_false]
    cases read : readDigits 0 digits with
    | error cause =>
        constructor
        · intro read
          cases read
        · rintro ⟨number, numeral, rfl, lower, upper⟩
          have fits : number < 0x10000000000000000 := by
            cases negative <;> simp only [Bool.false_eq_true, if_false, if_true] at * <;> omega
          rw [(numeral_iff empty).mpr ⟨numeral, fits⟩] at read
          cases read
    | ok size =>
        have numeral := ((numeral_iff empty).mp read).1
        have only (number : Nat) : Numeral digits number ↔ number = size :=
          ⟨fun other => other.value.trans numeral.value.symm, fun same => same ▸ numeral⟩
        simp only [only, exists_eq_left]
        cases negative with
        | true =>
            change (if size ≤ 0x8000000000000000 then Except.ok (-(size : Int))
              else .error NumberError.range) = .ok value ↔ _
            split <;> simp only [if_true, Except.ok.injEq, reduceCtorEq, false_iff] <;> omega
        | false =>
            change (if size < 0x8000000000000000 then Except.ok (size : Int)
              else .error NumberError.range) = .ok value ↔ _
            split <;>
              simp only [Bool.false_eq_true, if_false, Except.ok.injEq, reduceCtorEq,
                false_iff] <;>
              omega

/-- A signed integer is read from a word exactly if the word spells it and it has 64 bits. -/
theorem readSigned_eq_ok_iff {word : String} {value : Int}
    : readSigned word = .ok value
      ↔ Spells true word.toList value
        ∧ -0x8000000000000000 ≤ value
        ∧ value < 0x8000000000000000 := by
  rw [readSigned_eq, readMagnitude_eq_ok_iff, spells_iff]
  simp only [exists_and_right, ← and_assoc]

-----------------------------------------------------------------------------------------
-- Integer types
-----------------------------------------------------------------------------------------

theorem Width.bits_pos (width : Width) : 0 < width.bits := by
  cases width <;> decide

/-- An integer type with so many bits, or a chain of pointers to one. -/
structure IntegerType where
  signed : Bool
  width : Width
  pointers : Nat := 0

namespace IntegerType

/-- The kind of a parameter that is reached through pointers. -/
def pointed : Nat → Kind → Kind
  | 0, kind => kind
  | pointers + 1, kind => .optional (pointed pointers kind)

/-- The value of a parameter that is reached through pointers. -/
def reached : Nat → Argument → Argument
  | 0, argument => argument
  | pointers + 1, argument => .optional (some (reached pointers argument))

/-- The kind of parameter that has the type. -/
def kind (t : IntegerType) : Kind :=
  pointed t.pointers (if t.signed then .int t.width else .unsigned t.width)

/-- The argument that is an integer. -/
def argument (t : IntegerType) (value : Int) : Argument :=
  reached t.pointers (.int value)

/-- The least integer of the type. -/
def least (t : IntegerType) : Int :=
  if t.signed then -2 ^ (t.width.bits - 1) else 0

/-- The greatest integer of the type. -/
def greatest (t : IntegerType) : Int :=
  if t.signed then 2 ^ (t.width.bits - 1) - 1 else 2 ^ t.width.bits - 1

/-- An integer lies in the range of the type. -/
def Holds (t : IntegerType) (value : Int) : Prop :=
  t.least ≤ value ∧ value ≤ t.greatest

instance (t : IntegerType) (value : Int) : Decidable (t.Holds value) :=
  inferInstanceAs (Decidable (_ ∧ _))

/-- The type of the same integers with 64 bits. -/
def widest (t : IntegerType) : IntegerType :=
  { t with width := .bits64 }

/-- A word is taken for the type: it spells an integer that has 64 bits. -/
structure Takes (t : IntegerType) (word : String) (spelled : Int) : Prop where
  spells : Spells t.signed word.toList spelled
  fits : t.widest.Holds spelled

/-- The type has as many integers as its bits can tell apart. -/
theorem greatest_eq (t : IntegerType) : t.greatest = t.least + 2 ^ t.width.bits - 1 := by
  unfold greatest least
  cases t.signed <;> cases t.width <;> decide

/-- Two integers of the type that have the same last bits are the same. -/
theorem Holds.unique {t : IntegerType} {value other : Int} (holds : t.Holds value)
    (otherHolds : t.Holds other)
    (congruent : value % 2 ^ t.width.bits = other % 2 ^ t.width.bits)
    : value = other := by
  have range := t.greatest_eq
  obtain ⟨lower, upper⟩ := holds
  obtain ⟨otherLower, otherUpper⟩ := otherHolds
  have divides : (2 ^ t.width.bits : Int) ∣ value - other :=
    Int.dvd_of_emod_eq_zero (Int.emod_eq_emod_iff_emod_sub_eq_zero.mp congruent)
  have none := Int.eq_zero_of_abs_lt_dvd divides (by rw [abs_lt]; omega)
  omega

/-- The bits of the type cut out of an integer. -/
def cut (t : IntegerType) (value : Int) : Int :=
  if t.signed then value.bmod (2 ^ t.width.bits) else value % 2 ^ t.width.bits

theorem cut_congruent (t : IntegerType) (value : Int)
    : t.cut value % 2 ^ t.width.bits = value % 2 ^ t.width.bits := by
  unfold cut
  cases t.signed with
  | true =>
      have same := Int.bmod_emod (x := value) (m := 2 ^ t.width.bits)
      push_cast at same
      exact same
  | false => exact Int.emod_emod_of_dvd value (dvd_refl _)

theorem holds_cut (t : IntegerType) (value : Int) : t.Holds (t.cut value) := by
  have range := t.greatest_eq
  have positive : 0 < 2 ^ t.width.bits := Nat.two_pow_pos _
  cases sign : t.signed with
  | true =>
      have halves : (2 : Int) ^ t.width.bits = 2 * 2 ^ (t.width.bits - 1) := by
        rw [← pow_succ', Nat.sub_add_cancel t.width.bits_pos]
      have lower := Int.le_bmod (x := value) positive
      have upper := Int.bmod_lt (x := value) positive
      push_cast [halves] at lower upper
      simp only [Holds, range, least, cut, sign, if_true, halves]
      omega
  | false =>
      have wide : (0 : Int) < 2 ^ t.width.bits := Int.pow_pos (by decide)
      have lower := Int.emod_nonneg value (Int.ne_of_gt wide)
      have upper := Int.emod_lt_of_pos value wide
      simp only [Holds, range, least, cut, sign, Bool.false_eq_true, if_false]
      omega

/-- An integer survives being cut exactly if it is one of the type. -/
theorem cut_eq_self_iff {t : IntegerType} {value : Int} : t.cut value = value ↔ t.Holds value := by
  constructor
  · intro same
    exact same ▸ t.holds_cut value
  · intro holds
    exact (t.holds_cut value).unique holds (t.cut_congruent value)

-----------------------------------------------------------------------------------------
-- From words to arguments
-----------------------------------------------------------------------------------------

/-- A word for a pointer is read as one for what it points to. -/
theorem convert_pointed (pointers : Nat) (kind : Kind) (word : String)
    : (pointed pointers kind).convert word = (kind.convert word).map (reached pointers) := by
  induction pointers with
  | zero =>
      rw [pointed]
      cases kind.convert word <;> rfl
  | succ pointers ih =>
      rw [pointed, Kind.convert, ih]
      cases kind.convert word <;> rfl

/-- A word for a signed type is read with 64 bits, and what it spells is cut down. -/
theorem convert_int_iff {width : Width} {word : String} {argument : Argument}
    : (Kind.int width).convert word = .ok argument
      ↔ ∃ spelled,
          readSigned word = .ok spelled ∧ argument = .int (spelled.bmod (2 ^ width.bits)) := by
  unfold Kind.convert
  cases readSigned word with
  | error cause => simp
  | ok value => simp [eq_comm]

theorem convert_unsigned_iff {width : Width} {word : String} {argument : Argument}
    : (Kind.unsigned width).convert word = .ok argument
      ↔ ∃ spelled,
          readUnsigned word = .ok spelled ∧ argument = .int (spelled % 2 ^ width.bits) := by
  unfold Kind.convert
  cases readUnsigned word with
  | error cause => simp
  | ok value => simp [eq_comm]

/-- The type with 64 bits holds what can be read. -/
theorem holds_widest_iff {t : IntegerType} {value : Int}
    : t.widest.Holds value
      ↔ if t.signed then -0x8000000000000000 ≤ value ∧ value < 0x8000000000000000
        else 0 ≤ value ∧ value < 0x10000000000000000 := by
  unfold Holds widest least greatest
  cases t.signed <;> simp only [Width.bits, Bool.false_eq_true, if_false, if_true] <;> omega

/-- A word for a plain integer type becomes an argument exactly if it is taken for the type. -/
theorem convert_plain_iff {t : IntegerType} {word : String} {argument : Argument}
    : (if t.signed then Kind.int t.width else .unsigned t.width).convert word = .ok argument
      ↔ ∃ spelled, t.Takes word spelled ∧ argument = .int (t.cut spelled) := by
  have takes_iff (spelled : Int)
      : t.Takes word spelled ↔ Spells t.signed word.toList spelled ∧ t.widest.Holds spelled :=
    ⟨fun takes => ⟨takes.spells, takes.fits⟩, fun both => ⟨both.1, both.2⟩⟩
  simp only [takes_iff, holds_widest_iff, cut]
  cases t.signed with
  | true => simp only [if_true, convert_int_iff, readSigned_eq_ok_iff]
  | false =>
      simp only [Bool.false_eq_true, if_false, convert_unsigned_iff, readUnsigned_eq_ok_iff,
        spells_unsigned_iff]
      constructor
      · rintro ⟨number, ⟨numeral, fits⟩, rfl⟩
        exact ⟨number, ⟨⟨number, numeral, rfl⟩, by omega, by omega⟩, rfl⟩
      · rintro ⟨_, ⟨⟨number, numeral, rfl⟩, _, fits⟩, rfl⟩
        exact ⟨number, ⟨numeral, by omega⟩, rfl⟩

/-- A word becomes an argument of the type exactly if it is taken for the type, and the argument is
what the bits of the type hold of the integer.
-/
theorem convert_eq_ok_iff {t : IntegerType} {word : String} {argument : Argument}
    : t.kind.convert word = .ok argument
      ↔ ∃ spelled, t.Takes word spelled ∧ argument = t.argument (t.cut spelled) := by
  rw [kind, convert_pointed]
  constructor
  · intro converted
    cases plain : (if t.signed then Kind.int t.width else .unsigned t.width).convert word with
    | error cause =>
        rw [plain] at converted
        cases converted
    | ok read =>
        rw [plain] at converted
        obtain ⟨spelled, takes, rfl⟩ := convert_plain_iff.mp plain
        exact ⟨spelled, takes, (Except.ok.inj converted).symm⟩
  · rintro ⟨spelled, takes, rfl⟩
    rw [convert_plain_iff.mpr ⟨spelled, takes, rfl⟩]
    rfl

/-- What the type holds has 64 bits. -/
theorem Holds.widest {t : IntegerType} {value : Int} (holds : t.Holds value)
    : t.widest.Holds value := by
  obtain ⟨signed, width, pointers⟩ := t
  rw [holds_widest_iff]
  unfold Holds least greatest at holds
  cases signed <;> cases width <;> simp [Width.bits] at * <;> omega

theorem holds_widest_of_bits {t : IntegerType} (wide : t.width.bits = 64) {value : Int}
    : t.widest.Holds value ↔ t.Holds value := by
  have same : Width.bits64.bits = 64 := rfl
  simp only [Holds, IntegerType.widest, least, greatest, wide, same]

end IntegerType

-----------------------------------------------------------------------------------------
-- From command lines to calls
-----------------------------------------------------------------------------------------

/-- The arguments that are taken from words are converted from them one by one. -/
theorem convert_of_takeArguments {kinds : List Kind} {words rest : List String}
    {arguments : List Argument} (taken : takeArguments kinds words = .ok (arguments, rest))
    {index : Nat} {kind : Kind} (wanted : kinds[index]? = some kind) {word : String}
    (given : words[index]? = some word)
    : ∃ argument, kind.convert word = .ok argument ∧ arguments[index]? = some argument := by
  induction kinds generalizing words arguments index with
  | nil => simp at wanted
  | cons first others ih =>
      obtain ⟨argument, later, read, behind, rfl⟩ := takeArguments_cons_iff.mp taken
      cases words with
      | nil => simp at given
      | cons front words =>
          cases index with
          | zero =>
              obtain rfl : first = kind := by simpa using wanted
              obtain rfl : front = word := by simpa using given
              exact ⟨argument, read, rfl⟩
          | succ index =>
              simpa using ih behind (by simpa using wanted) (by simpa using given)

/-- The next word names a command whose function has a parameter of a kind, and there is a word for
the parameter.
-/
structure Progress.Offers (p : Progress) (name : String) (words : List String)
    (command : Command) (index : Nat) (kind : Kind) (word : String) : Prop where
  found : p.Finds name words command
  wanted
    : ∃ kinds effect,
        command.function = some (kinds, effect)
        ∧ kinds[index]? = some kind
  given : words[index]? = some word

/-- A word that does not become an argument ends the line before the function is called. -/
theorem Progress.Offers.finish_of_unfit {p : Progress} {name : String} {words : List String}
    {command : Command} {index : Nat} {kind : Kind} {word : String}
    (offers : p.Offers name words command index kind word)
    (unfit : ∀ argument, kind.convert word ≠ .ok argument)
    : ∃ cause, p.finish = (.failed (.badArgument name cause), { p with words }) := by
  obtain ⟨kinds, effect, function, wanted⟩ := offers.wanted
  cases taken : takeArguments kinds words with
  | error cause =>
      exact ⟨cause, (finish_of_ended (offers.found.round_of_refused function taken)).1⟩
  | ok read =>
      obtain ⟨argument, converted, _⟩ := convert_of_takeArguments taken wanted offers.given
      exact absurd converted (unfit argument)

/-- A function that is called has been given what the word became. -/
theorem Progress.Offers.convert_of_invokes {p : Progress} {name : String} {words : List String}
    {command : Command} {index : Nat} {kind : Kind} {word : String}
    (offers : p.Offers name words command index kind word) {effect : Effect}
    {arguments : List Argument} {rest : List String}
    (invoked : p.Invokes name command effect arguments rest)
    : ∃ argument, kind.convert word = .ok argument ∧ arguments[index]? = some argument := by
  obtain ⟨kinds, _, function, wanted⟩ := offers.wanted
  obtain ⟨behind, others, found, same, taken⟩ := invoked.spelled
  obtain ⟨rfl, _⟩ : others = kinds ∧ _ := by simpa [function] using same.symm
  obtain ⟨front, next, _⟩ := offers.found.reads
  obtain ⟨again, nextAgain, _⟩ := found.reads
  obtain rfl : behind = words := (List.cons.inj (nextAgain.symm.trans next)).2
  exact convert_of_takeArguments taken wanted offers.given

/-- Integer arguments of every type, from the word to the call. A word becomes an argument exactly if
it spells an integer that 64 bits hold, and the argument is the integer of the type with the same
last bits, which is the one that was spelled exactly if the type holds that. For a type of 64 bits
this means that words for integers of the type are taken, and no others, and that they are never
altered. Whatever the type, a word that is not taken ends the line with an error before the
function is called, and a function that is called has been given what the word became.
-/
theorem integer_argument (t : IntegerType) (word : String)
    : (∀ rest argument,
        t.kind.read (word :: rest) = .ok argument
        ↔ ∃ spelled, t.Takes word spelled ∧ argument = t.argument (t.cut spelled))
      ∧ (∀ spelled,
          t.Holds (t.cut spelled)
          ∧ t.cut spelled % 2 ^ t.width.bits = spelled % 2 ^ t.width.bits
          ∧ (t.cut spelled = spelled ↔ t.Holds spelled))
      ∧ (∀ spelled,
          Spells t.signed word.toList spelled
          → (t.Holds spelled → t.Takes word spelled)
            ∧ (t.width.bits = 64 → (t.Takes word spelled ↔ t.Holds spelled)))
      ∧ ∀ p name words command index,
          Progress.Offers p name words command index t.kind word
          → ((∀ spelled, ¬t.Takes word spelled)
              → ∃ cause, p.finish = (.failed (.badArgument name cause), { p with words }))
            ∧ ∀ effect arguments rest,
                p.Invokes name command effect arguments rest
                → ∃ spelled,
                    t.Takes word spelled
                    ∧ arguments[index]? = some (t.argument (t.cut spelled)) := by
  refine ⟨fun rest argument => t.convert_eq_ok_iff,
    fun spelled =>
      ⟨t.holds_cut spelled, t.cut_congruent spelled, IntegerType.cut_eq_self_iff⟩,
    fun spelled spells => ⟨fun holds => ⟨spells, holds.widest⟩, fun wide => ?_⟩,
    fun p name words command index offers =>
      ⟨fun unfit => ?_, fun effect arguments rest invoked => ?_⟩⟩
  · rw [← IntegerType.holds_widest_of_bits wide]
    exact ⟨fun takes => takes.fits, fun holds => ⟨spells, holds⟩⟩
  · refine offers.finish_of_unfit fun argument converted => ?_
    obtain ⟨spelled, takes, _⟩ := IntegerType.convert_eq_ok_iff.mp converted
    exact unfit spelled takes
  · obtain ⟨argument, converted, placed⟩ := offers.convert_of_invokes invoked
    obtain ⟨spelled, takes, rfl⟩ := IntegerType.convert_eq_ok_iff.mp converted
    exact ⟨spelled, takes, placed⟩

/-- The signed integers of eight bits. -/
def byteType : IntegerType :=
  { signed := true, width := .bits8 }

/-- A command that takes such an integer. -/
def byteCommand : Command :=
  { key := "n", function := some ([byteType.kind], .call "n" fun _ => none) }

/-- A table with that command. -/
def byteTable : Table :=
  [("n", some byteCommand)]

theorem offers_byteTable (word : String)
    : (Progress.start [] byteTable ["n", word] {}).Offers "n" [word] byteCommand 0 byteType.kind
        word :=
  ⟨⟨⟨"n", rfl, by decide +kernel⟩, rfl⟩, ⟨_, _, rfl, rfl⟩, rfl⟩

theorem numeral_128 : Numeral "128".toList 128 :=
  ⟨by decide, List.all_eq_true.mp (by decide), by decide⟩

theorem integer_argument_byteTable
    : Spells true "-128".toList (-128)
      ∧ byteType.kind.read ["-128"] = .ok (.int (-128))
      ∧ (Progress.start [] byteTable ["n", "x"] {}).Offers "n" ["x"] byteCommand 0
          byteType.kind "x"
      ∧ ∃ cause,
          (Progress.start [] byteTable ["n", "x"] {}).finish.1
          = .failed (.badArgument "n" cause) := by
  obtain ⟨read, cut, takes, _⟩ := integer_argument byteType "-128"
  obtain ⟨readX, _, _, line⟩ := integer_argument byteType "x"
  have spells : Spells true "-128".toList (-128) := .negative rfl numeral_128
  have holds : byteType.Holds (-128) := by decide
  refine ⟨spells, ?_, offers_byteTable "x", ?_⟩
  · rw [read]
    exact ⟨-128, (takes _ spells).1 holds, by rw [(cut _).2.2.mpr holds]; rfl⟩
  · have unfit (spelled : Int) : ¬byteType.Takes "x" spelled := by
      intro takes
      have read := (readX [] _).mpr ⟨spelled, takes, rfl⟩
      cases read
    obtain ⟨cause, ends⟩ := (line _ _ _ _ _ (offers_byteTable "x")).1 unfit
    exact ⟨cause, congrArg Prod.fst ends⟩

/-- A word that becomes an argument is passed on, and nothing else happens. -/
theorem execute_byteTable {word : String} {argument : Argument}
    (converted : byteType.kind.convert word = .ok argument)
    : (execute byteTable ["n", word] {}).calls = [⟨"n", [argument]⟩]
      ∧ (execute byteTable ["n", word] {}).ending = .finished [] := by
  have invoked
      : (Progress.start [] byteTable ["n", word] {}).Invokes "n" byteCommand
          (.call "n" fun _ => none) [argument] [] :=
    ⟨[word], [byteType.kind], (offers_byteTable word).found, rfl,
      takeArguments_cons_iff.mpr ⟨argument, [], converted, rfl, rfl⟩⟩
  -- The first round calls the command, and the second one finds all words used.
  have goesOn : (Progress.start [] byteTable ["n", word] {}).round.1 = none := by
    rw [invoked.round_eq]
    rfl
  have used : (Progress.start [] byteTable ["n", word] {}).round.2.words = [] := by
    rw [invoked.round_eq]
    rfl
  have finish
      : (Progress.start [] byteTable ["n", word] {}).finish
        = (.finished [], (Progress.start [] byteTable ["n", word] {}).round.2) := by
    rw [(Progress.finish_of_goesOn (Prod.ext goesOn rfl)).1,
      (Progress.finish_of_ended (Progress.round_of_used used)).1, invoked.round_eq]
    rfl
  constructor
  · rw [execute, executeAfter, finish, invoked.round_eq]
    rfl
  · rw [execute, executeAfter, finish]

/-- The least integer above those of the type is taken, and passed on as the least one of the type.
-/
theorem byteTable_alters_128
    : Spells byteType.signed "128".toList 128
      ∧ ¬byteType.Holds 128
      ∧ (execute byteTable ["n", "128"] {}).calls = [⟨"n", [byteType.argument (-128)]⟩]
      ∧ (execute byteTable ["n", "128"] {}).ending = .finished [] := by
  have spells : Spells byteType.signed "128".toList 128 := .plain numeral_128
  have converted : byteType.kind.convert "128" = .ok (byteType.argument (-128)) :=
    IntegerType.convert_eq_ok_iff.mpr ⟨128, ⟨spells, by decide⟩, rfl⟩
  exact ⟨spells, by decide, execute_byteTable converted⟩

end TapeMachine.CommandLine
