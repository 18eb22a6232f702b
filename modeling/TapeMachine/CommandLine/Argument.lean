import TapeMachine.Text.Choice
import TapeMachine.Text.Quoted

/-!
Arguments of commands: the kinds of parameter a command can have, and how a word becomes a value
of a kind.
-/

namespace TapeMachine.CommandLine

/-- The width of an integer; a plain one has 64 bits. -/
inductive Width where
  | plain
  | bits8
  | bits16
  | bits32
  | bits64
  deriving DecidableEq, Inhabited

namespace Width

/-- The number of bits. -/
def bits : Width → Nat
  | plain => 64
  | bits8 => 8
  | bits16 => 16
  | bits32 => 32
  | bits64 => 64

/-- What follows the name of an integer kind. -/
def suffix : Width → String
  | plain => ""
  | bits8 => "8"
  | bits16 => "16"
  | bits32 => "32"
  | bits64 => "64"

end Width

/-- A kind of parameter. -/
inductive Kind where
  | bool
  | int (width : Width)
  | unsigned (width : Width)
  | text
  /-- A parameter that may be left out at the end of a command line. -/
  | optional (kind : Kind)
  /-- A kind that no word can be converted to. -/
  | other (name : String)
  deriving DecidableEq, Inhabited

/-- The name of a kind. -/
def Kind.name : Kind → String
  | bool => "bool"
  | int width => "int" ++ width.suffix
  | unsigned width => "uint" ++ width.suffix
  | text => "string"
  | optional kind => "*" ++ kind.name
  | other name => name

/-- A value handed to a command. -/
inductive Argument where
  | bool (value : Bool)
  | int (value : Int)
  | text (value : String)
  /-- The value of an optional parameter. -/
  | optional (value : Option Argument)
  /-- The initial value of a kind that no word can be converted to. -/
  | blank (kind : String)
  deriving Inhabited

/-- The initial value of a kind. -/
def Kind.zero : Kind → Argument
  | bool => .bool false
  | int _ => .int 0
  | unsigned _ => .int 0
  | text => .text ""
  | optional _ => .optional none
  | other name => .blank name

/-- Why a word is no integer. -/
inductive NumberError where
  | syntax_
  | range
  deriving DecidableEq, Inhabited

/-- The text of a number error. -/
def NumberError.message : NumberError → String
  | syntax_ => "invalid syntax"
  | range => "value out of range"

/-- Reads decimal digits as a 64-bit number, from left to right: a digit too many is noticed before
what stands behind it.
-/
def readDigits (number : Nat) : List Char → Except NumberError Nat
  | [] => .ok number
  | c :: rest =>
    if !c.isDigit then .error .syntax_
    else
      let next := number * 10 + (c.toNat - '0'.toNat)
      if next < 0x10000000000000000 then readDigits next rest else .error .range

/-- The unsigned 64-bit number that a word spells in decimal digits. -/
def readUnsigned (word : String) : Except NumberError Nat :=
  match word.toList with
  | [] => .error .syntax_
  | digits => readDigits 0 digits

/-- The signed 64-bit number that a word spells in decimal digits behind an optional sign. -/
def readSigned (word : String) : Except NumberError Int := do
  let (negative, digits) := match word.toList with
    | '-' :: rest => (true, rest)
    | '+' :: rest => (false, rest)
    | rest => (false, rest)
  if digits.isEmpty then throw .syntax_
  let size ← readDigits 0 digits
  if negative then
    if size ≤ 0x8000000000000000 then return -(size : Int) else throw .range
  else
    if size < 0x8000000000000000 then return size else throw .range

/-- Why a word did not become an argument. -/
inductive ArgumentError where
  /-- There was no word left. -/
  | missing
  | badInt (word : String) (cause : NumberError)
  | badUnsigned (word : String) (cause : NumberError)
  /-- No word can be converted to the kind. -/
  | unsupported (kind : String)
  deriving DecidableEq, Inhabited

/-- The text of an argument error. -/
def ArgumentError.message : ArgumentError → String
  | missing => "expecting argument, got nothing"
  | badInt word cause =>
    s!"convert {word} to int: strconv.ParseInt: parsing {Text.quoted word}: {cause.message}"
  | badUnsigned word cause =>
    s!"convert {word} to unsigned int: strconv.ParseUint: parsing {Text.quoted word}: "
      ++ cause.message
  | unsupported kind => "unsupported type: " ++ kind

/-- The argument of a kind that a word spells. A number is read with 64 bits and then cut down to
the width of the kind.
-/
def Kind.convert : Kind → String → Except ArgumentError Argument
  | bool, word => .ok (.bool (Text.affirms word))
  | int width, word =>
    match readSigned word with
    | .ok value => .ok (.int (value.bmod (Nat.pow 2 width.bits)))
    | .error cause => .error (.badInt word cause)
  | unsigned width, word =>
    match readUnsigned word with
    | .ok value => .ok (.int (value % Nat.pow 2 width.bits : Nat))
    | .error cause => .error (.badUnsigned word cause)
  | text, word => .ok (.text word)
  | optional kind, word => (kind.convert word).map fun value => .optional (some value)
  | other name, _ => .error (.unsupported name)

/-- The argument of a kind taken from the front of the words. An optional parameter for which there
is no word has the initial value of its kind.
-/
def Kind.read (kind : Kind) : List String → Except ArgumentError Argument
  | word :: _ => kind.convert word
  | [] =>
    match kind with
    | optional inner => .ok (.optional (some inner.zero))
    | _ => .error .missing

/-- Takes one argument for each kind from the front of the words. -/
def takeArguments : List Kind → List String → Except ArgumentError (List Argument × List String)
  | [], words => .ok ([], words)
  | kind :: kinds, words => do
    let first ← kind.read words
    let (others, rest) ← takeArguments kinds (words.drop 1)
    return (first :: others, rest)

/-- Taking arguments leaves no more words than there were. -/
theorem length_of_takeArguments {kinds : List Kind} {words rest : List String}
    {arguments : List Argument} (h : takeArguments kinds words = .ok (arguments, rest))
    : rest.length ≤ words.length := by
  induction kinds generalizing words arguments with
  | nil =>
      simp only [takeArguments, Except.ok.injEq, Prod.mk.injEq] at h
      exact h.2 ▸ Nat.le_refl _
  | cons kind kinds ih =>
      simp only [takeArguments, bind, Except.bind] at h
      split at h
      · contradiction
      · split at h
        · contradiction
        · rename_i pair taken
          simp only [pure, Except.pure, Except.ok.injEq, Prod.mk.injEq] at h
          have := ih (taken.trans (congrArg Except.ok (Prod.ext rfl h.2)))
          simp only [List.length_drop] at this
          omega

end TapeMachine.CommandLine
