import TapeMachine.Cbor.Decode
import TapeMachine.Machine.Basic

/-!
Snapshots: the state of a machine as bytes. They are written in canonical form, the keys of a
snapshot ordered by length and then by their bytes, and read back leniently: keys in any order and
case, unknown keys ignored, numbers in any of the forms the data format has for them. What was
read is checked against the machine before anything changes.
-/

namespace TapeMachine

/-- The state of a machine as far as it is written down. Strings of bytes may be missing, which
means the same as empty.
-/
structure Snapshot where
  program : Option (List UInt8) := none
  pc : Int64 := 0
  address : Int64 := 0
  /-- The loops that were entered and not left, the outermost first. -/
  loops : List Int64 := []
  skip : Int64 := 0
  steps : Int64 := 0
  positive : Option (List UInt8) := none
  negative : Option (List UInt8) := none
  deriving DecidableEq, Inhabited

namespace Snapshot

open Cbor

/-- A string of bytes that may be missing. -/
def bytesItem : Option (List UInt8) → Item
  | none => .null
  | some content => .bytes content

/-- A snapshot as a data item with its keys in canonical order. -/
def toItem (s : Snapshot) : Item :=
  .map [
    (.string "pc", .int s.pc.toInt),
    (.string "addr", .int s.address.toInt),
    (.string "skip", .int s.skip.toInt),
    (.string "loops", .array (s.loops.map fun start => .int start.toInt)),
    (.string "steps", .int s.steps.toInt),
    (.string "program", bytesItem s.program),
    (.string "negative", bytesItem s.negative),
    (.string "positive", bytesItem s.positive)]

/-- The bytes of a snapshot. -/
def encode (s : Snapshot) : List UInt8 :=
  s.toItem.encode

/-- A tag fits the item it stands on: dates are texts or numbers, big numbers are strings of
bytes, and any other tag may stand on anything.
-/
def tagFits (number : Nat) (content : Item) : Bool :=
  match number, content with
  | 0, .text _ => true
  | 0, _ => false
  | 1, .unsigned _ => true
  | 1, .negative _ => true
  | 1, .float _ _ => true
  | 1, _ => false
  | 2, .bytes _ => true
  | 2, _ => false
  | 3, .bytes _ => true
  | 3, _ => false
  | _, _ => true

/-- The number that a string of bytes spells, the most significant first. -/
def bigNumber (content : List UInt8) : Nat :=
  content.foldl (fun number byte => number * 256 + byte.toNat) 0

/-- A signed word, unless the number does not fit. -/
def word? (value : Int) : Option Int64 :=
  if -0x8000000000000000 ≤ value && value < 0x8000000000000000 then some (Int64.ofInt value)
  else none

/-- The word that an item stands for. Missing values are zero, simple values that mean nothing else
are numbers, and big numbers are accepted as far as they fit.
-/
def readWord : Item → Option Int64
  | .unsigned value => word? value
  | .negative value => word? (-1 - value)
  | .simple code =>
    if code = 20 || code = 21 then none
    else if Item.isNullCode code then some 0
    else word? code
  | .tag number content =>
    if tagFits number content then
      match number, content with
      | 2, .bytes digits => word? (bigNumber digits)
      | 3, .bytes digits => word? (-1 - bigNumber digits)
      | _, content => readWord content
    else none
  | _ => none

/-- The byte that an item stands for. -/
def readByte (item : Item) : Option UInt8 := do
  let value ← readWord item
  if 0 ≤ value && value < 256 then some value.toInt.toNat.toUInt8 else none

/-- The string of bytes that an item stands for; an array of small numbers is one, too. -/
def readBytes : Item → Option (Option (List UInt8))
  | .bytes content => some (some content)
  | .simple code => if Item.isNullCode code then some none else none
  | .array items => (items.mapM readByte).map some
  | .tag number content => if tagFits number content then readBytes content else none
  | _ => none

/-- The words that an item stands for. -/
def readWords : Item → Option (List Int64)
  | .simple code => if Item.isNullCode code then some [] else none
  | .array items => items.mapM readWord
  | .tag number content => if tagFits number content then readWords content else none
  | _ => none

/-- A letter in lower case. -/
def lowerByte (byte : UInt8) : UInt8 :=
  if 0x41 ≤ byte && byte ≤ 0x5a then byte + 0x20 else byte

/-- What the key of an entry says: a name in lower case or, for a number, nothing of interest. Any
other key spoils the snapshot.
-/
def readKey : Item → Option (Option (List UInt8))
  | .text pieces =>
    if pieces.all fun piece => (String.fromUTF8? ⟨piece.toArray⟩).isSome then
      some (some (pieces.flatten.map lowerByte))
    else none
  | .unsigned _ => some none
  | .negative value => if value < 0x8000000000000000 then some none else none
  | _ => none

/-- The first entry with a name, or null. -/
def field (entries : List (Option (List UInt8) × Item)) (name : String) : Item :=
  match entries.find? fun entry => entry.1 == some name.toUTF8.toList with
  | some (_, item) => item
  | none => .null

/-- The snapshot that the entries of a map spell. Of several entries with one name only the first
is looked at.
-/
def ofEntries (entries : List (Item × Item)) : Option Snapshot := do
  let entries ← entries.mapM fun (key, value) => (readKey key).map (·, value)
  let program ← readBytes (field entries "program")
  let pc ← readWord (field entries "pc")
  let address ← readWord (field entries "addr")
  let loops ← readWords (field entries "loops")
  let skip ← readWord (field entries "skip")
  let steps ← readWord (field entries "steps")
  let positive ← readBytes (field entries "positive")
  let negative ← readBytes (field entries "negative")
  return { program, pc, address, loops, skip, steps, positive, negative }

/-- The snapshot that an item stands for. -/
def ofItem : Item → Option Snapshot
  | .map entries => ofEntries entries
  | .simple code => if Item.isNullCode code then some {} else none
  | .tag number content => if tagFits number content then ofItem content else none
  | _ => none

/-- The snapshot that bytes hold. -/
def decode (bytes : List UInt8) : Option Snapshot :=
  (Cbor.decode bytes).bind ofItem

end Snapshot

/-- A half of the tape as it is written down: an empty one is left out. -/
def halfContent (cells : Array UInt8) : Option (List UInt8) :=
  if cells.isEmpty then none else some cells.toList

/-- The state of a machine, to be written down. -/
def Machine.snapshot (m : Machine) : Snapshot :=
  { program := if m.program.given then some m.program.code.toList else none
    pc := Int64.ofInt m.pc
    address := m.address
    loops := m.loops.reverse.map Int64.ofNat
    skip := m.skip
    steps := m.steps
    positive := halfContent m.tape.positive
    negative := halfContent m.tape.negative }

/-- Why a snapshot was not taken back. -/
inductive RestoreError where
  /-- The bytes hold no snapshot. -/
  | malformed
  /-- It belongs to another program. -/
  | programMismatch
  /-- A register is out of its range. -/
  | badState (pc skip : Int64) (depth : Nat)
  /-- A loop does not start where it says. -/
  | badLoop (start : Int64)
  /-- The tape does not fit the limit of the machine. -/
  | exhausted
  deriving DecidableEq, Inhabited

/-- The text of the error, where it has one that is fixed. -/
def RestoreError.message : RestoreError → String
  | malformed => "machines: unmarshal snapshot"
  | programMismatch => "snapshot taken from another program"
  | badState pc skip depth =>
    s!"machines: bad snapshot state: pc {pc.toInt}, skip {skip.toInt}, depth {depth}"
  | badLoop start => s!"machines: bad snapshot state: loop start {start.toInt}"
  | exhausted => "machines: restore: tape exhausted"

namespace Machine

/-- A loop of the program starts at a position. -/
def startsLoop (m : Machine) (position : Int64) : Bool :=
  0 ≤ position
    && m.program.byte? position.toNatClampNeg == some Instruction.loopStart.toByte

/-- The tape of a snapshot and its address stay within a limit. An address below zero has its place
in the negative half compared with the limit, and that place is computed as a word.
-/
def fits (limit : Int) (s : Snapshot) : Bool :=
  ((s.positive.getD []).length : Int) ≤ limit && ((s.negative.getD []).length : Int) ≤ limit
    && s.address.toInt < limit && (-s.address - 1).toInt < limit

/-- What a snapshot must satisfy to be taken over by a machine, checked in this order. -/
def check (m : Machine) (s : Snapshot) : Except RestoreError Unit := do
  if s.program.getD [] ≠ m.program.code.toList then throw .programMismatch
  if s.pc < 0 || (m.program.size : Int) < s.pc.toInt || s.skip < 0
      || m.maxDepth < s.loops.length then
    throw (.badState s.pc s.skip s.loops.length)
  match s.loops.find? (!m.startsLoop ·) with
  | some start => throw (.badLoop start)
  | none => pure ()
  if 0 < m.tape.limit && !fits m.tape.limit s then throw .exhausted

/-- The machine in the state of a snapshot. -/
def adopt (m : Machine) (s : Snapshot) : Machine :=
  { m with
    pc := s.pc.toInt
    address := s.address
    loops := (s.loops.map Int64.toNatClampNeg).reverse
    skip := s.skip
    steps := s.steps
    tape := { m.tape with
      positive := (s.positive.getD []).toArray
      negative := (s.negative.getD []).toArray } }

/-- Takes a snapshot back. -/
def restore (m : Machine) (bytes : List UInt8) : Except RestoreError Machine :=
  match Snapshot.decode bytes with
  | none => .error .malformed
  | some s => do
    m.check s
    return m.adopt s

end Machine

end TapeMachine
