import TapeMachine.Cbor.Item

/-!
Reading data items. A reader takes bytes and gives an item together with the bytes behind it.
Lengths may be stated or, for strings, arrays and maps, left open and ended by a break byte.
Arrays, maps and chains of tags may be nested so far and no farther, and arrays and maps may hold
so many elements and no more.
-/

namespace TapeMachine.Cbor

/-- Reads something from the start of a list of bytes. -/
abbrev Reader (α : Type) := List UInt8 → Option (α × List UInt8)

/-- The nesting that is accepted. -/
def maxLevels : Nat := 32

/-- The number of elements of an array, or of entries of a map, that is accepted. -/
def maxElements : Nat := 131072

/-- The byte that ends an item of open length. -/
def breakByte : UInt8 := 0xff

/-- The argument of a head. -/
inductive Argument where
  /-- The argument follows from the low bits of the head, or stands in `width` bytes behind it. -/
  | stated (width : Nat) (value : Nat)
  /-- The length is left open. -/
  | open_
  deriving DecidableEq

/-- Reads a number of `width` bytes, the most significant first, behind the digits read so far. -/
def readNumber (width : Nat) (number : Nat) : Reader Nat := fun bytes =>
  match width, bytes with
  | 0, bytes => some (number, bytes)
  | _ + 1, [] => none
  | width + 1, byte :: rest => readNumber width (number * 256 + byte.toNat) rest

/-- Reads a head: the major type and the argument. -/
def readHead : Reader (Nat × Argument)
  | [] => none
  | first :: rest =>
    let major := first.toNat / 32
    let low := first.toNat % 32
    let following (width : Nat) : Option ((Nat × Argument) × List UInt8) :=
      (readNumber width 0 rest).map fun (value, rest) => ((major, .stated width value), rest)
    if low < 24 then some ((major, .stated 0 low), rest)
    else if low = 24 then following 1
    else if low = 25 then following 2
    else if low = 26 then following 4
    else if low = 27 then following 8
    else if low = 31 then some ((major, .open_), rest)
    else none

/-- Reads a number of bytes. -/
def readBytes (count : Nat) : Reader (List UInt8) := fun bytes =>
  let content := bytes.take count
  if content.length = count then some (content, bytes.drop count) else none

/-- Reads the pieces of a string of open length up to the break byte. Each piece has the major type
of the string and a stated length. The first argument bounds the number of pieces.
-/
def readPieces (major : Nat) : Nat → Reader (List (List UInt8))
  | 0, _ => none
  | fuel + 1, bytes =>
    match bytes with
    | [] => none
    | byte :: rest =>
      if byte = breakByte then some ([], rest)
      else do
        let ((pieceMajor, argument), bytes) ← readHead bytes
        match argument with
        | .open_ => none
        | .stated _ length =>
          if pieceMajor ≠ major then none
          else
            let (piece, bytes) ← readBytes length bytes
            let (pieces, bytes) ← readPieces major fuel bytes
            return (piece :: pieces, bytes)

/-- Reads so many items. -/
def readItems (item : Reader Item) : Nat → Reader (List Item)
  | 0, bytes => some ([], bytes)
  | count + 1, bytes => do
    let (first, bytes) ← item bytes
    let (rest, bytes) ← readItems item count bytes
    return (first :: rest, bytes)

/-- Reads items up to the break byte. The first argument bounds their number. -/
def readItemsToBreak (item : Reader Item) : Nat → Reader (List Item)
  | 0, _ => none
  | fuel + 1, bytes =>
    match bytes with
    | [] => none
    | byte :: rest =>
      if byte = breakByte then some ([], rest)
      else do
        let (first, bytes) ← item bytes
        let (rest, bytes) ← readItemsToBreak item fuel bytes
        return (first :: rest, bytes)

/-- Pairs keys with the values behind them; a key without a value spoils the map. -/
def pairUp : List Item → Option (List (Item × Item))
  | [] => some []
  | [_] => none
  | key :: value :: rest => (pairUp rest).map ((key, value) :: ·)

/-- Reads what an array or a map holds, the number of its items being stated or left open. -/
def readElements (item : Reader Item) (perEntry : Nat) (argument : Argument)
    : Reader (List Item) := fun bytes =>
  match argument with
  | .stated _ count =>
    if maxElements < count then none else readItems item (count * perEntry) bytes
  | .open_ => do
    let (items, bytes) ← readItemsToBreak item (bytes.length + 1) bytes
    if maxElements * perEntry < items.length then none else return (items, bytes)

/-- Reads an item without a tag. What an array or a map holds is read with `inner`, which is
missing when nothing may be nested any deeper.
-/
def readUntagged (inner : Option (Reader Item)) : Reader Item := fun bytes => do
  let ((major, argument), rest) ← readHead bytes
  match major, argument with
  | 0, .stated _ value => return (.unsigned value, rest)
  | 1, .stated _ value => return (.negative value, rest)
  | 2, .stated _ length =>
    let (content, rest) ← readBytes length rest
    return (.bytes content, rest)
  | 2, .open_ =>
    let (pieces, rest) ← readPieces 2 (rest.length + 1) rest
    return (.bytes pieces.flatten, rest)
  | 3, .stated _ length =>
    let (content, rest) ← readBytes length rest
    return (.text [content], rest)
  | 3, .open_ =>
    let (pieces, rest) ← readPieces 3 (rest.length + 1) rest
    return (.text pieces, rest)
  | 4, argument =>
    let item ← inner
    let (items, rest) ← readElements item 1 argument rest
    return (.array items, rest)
  | 5, argument =>
    let item ← inner
    let (items, rest) ← readElements item 2 argument rest
    let entries ← pairUp items
    return (.map entries, rest)
  | 7, .stated 0 code => return (.simple code, rest)
  | 7, .stated 1 code => if code < 32 then none else return (.simple code, rest)
  | 7, .stated width bits => return (.float width bits, rest)
  | _, _ => none

/-- A tag comes next. -/
def startsTag : List UInt8 → Bool
  | byte :: _ => byte.toNat / 32 == 6
  | [] => false

/-- Reads an item. A tag on a tag counts as nesting, a tag on anything else does not. -/
def readItem (inner : Option (Reader Item)) : Reader Item := fun bytes =>
  if startsTag bytes then do
    let ((_, argument), rest) ← readHead bytes
    match argument with
    | .open_ => none
    | .stated _ number =>
      let (content, rest) ←
        if startsTag rest then inner.bind (· rest) else readUntagged inner rest
      return (.tag number content, rest)
  else readUntagged inner bytes

/-- Reads an item with so many levels of nesting. -/
def readNested : Nat → Reader Item
  | 0 => readItem none
  | levels + 1 => readItem (some (readNested levels))

/-- The one item that bytes hold: bytes that end early, go on after it or are malformed hold none.
-/
def decode (bytes : List UInt8) : Option Item :=
  match readNested maxLevels bytes with
  | some (item, []) => some item
  | _ => none

end TapeMachine.Cbor
