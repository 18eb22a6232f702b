/-!
A byte tape that reaches as far as a 64-bit address does in both directions. Cells at addresses
from zero upwards live in the positive half, those below zero in the negative half, and a half
holds exactly the cells from its start up to the farthest one that was ever needed.

The meaning of a tape is the total map `Tape.peek`; every other operation is described by what it
does to that map and to the two lengths.
-/

namespace TapeMachine

/-- The two halves of a tape. -/
inductive Half where
  | positive
  | negative
  deriving DecidableEq, Inhabited

/-- The word that log records use for a half. -/
def Half.name : Half → String
  | .positive => "positive"
  | .negative => "negative"

/-- Addresses are 64-bit signed words: moving past either end comes back at the other. -/
abbrev Address := Int64

/-- The half that covers an address. -/
def Address.half (address : Address) : Half :=
  if address < 0 then .negative else .positive

/-- The place of an address in its half. Address `-1` is the first cell of the negative half; the
least address, whose negation wraps, is the last one.
-/
def Address.index (address : Address) : Nat :=
  (if address < 0 then -address - 1 else address).toNatClampNeg

/-- A cell came into being: which half it extends, and the length of that half from then on. -/
structure Growth where
  half : Half
  size : Nat
  deriving DecidableEq, Inhabited

/-- A cell that does not exist yet was asked for beyond the limit of its half. -/
structure Exhausted where
  address : Address
  limit : Int
  deriving DecidableEq, Inhabited

/-- What is reported when the tape is exhausted. -/
def Exhausted.message (fault : Exhausted) : String :=
  s!"address {fault.address.toInt}: tape exhausted (max {fault.limit} cells per half)"

/-- A tape: its two halves and the limit on the length of each. A limit that is not positive is no
limit.
-/
structure Tape where
  positive : Array UInt8 := #[]
  negative : Array UInt8 := #[]
  limit : Int := 0
  deriving DecidableEq, Inhabited

namespace Tape

/-- The cells of one half. -/
def cells (tape : Tape) : Half → Array UInt8
  | .positive => tape.positive
  | .negative => tape.negative

/-- Applies a function to the cells of one half. -/
@[inline]
def mapCells (tape : Tape) (half : Half) (f : Array UInt8 → Array UInt8) : Tape :=
  match half with
  | .positive => { tape with positive := f tape.positive }
  | .negative => { tape with negative := f tape.negative }

/-- The byte at an address; cells that do not exist read as zero. -/
def peek (tape : Tape) (address : Address) : UInt8 :=
  (tape.cells address.half)[address.index]?.getD 0

/-- The limit stands in the way of a cell: it does not exist yet and lies beyond the limit. -/
def refuses (tape : Tape) (address : Address) : Bool :=
  0 < tape.limit
    && tape.limit ≤ address.index
    && (tape.cells address.half).size ≤ address.index

/-- Adds the zero cells that are missing up to and including an address. -/
def extend (tape : Tape) (address : Address) : Tape :=
  tape.mapCells address.half fun cells =>
    if address.index < cells.size then cells
    else cells ++ Array.replicate (address.index + 1 - cells.size) 0

/-- The cells that `extend` adds, one by one. -/
def growth (tape : Tape) (address : Address) : List Growth :=
  let size := (tape.cells address.half).size
  (List.range' (size + 1) (address.index + 1 - size)).map (Growth.mk address.half)

/-- Replaces the byte of a cell that exists. -/
def put (tape : Tape) (address : Address) (value : UInt8) : Tape :=
  tape.mapCells address.half fun cells => cells.setIfInBounds address.index value

/-- The tape on which a cell exists, unless the limit refuses it. -/
def resolve (tape : Tape) (address : Address) : Except Exhausted Tape :=
  if tape.refuses address then .error ⟨address, tape.limit⟩
  else .ok (tape.extend address)

/-- The byte of a cell, which exists afterwards. -/
def get (tape : Tape) (address : Address) : Except Exhausted (UInt8 × Tape) := do
  let tape ← tape.resolve address
  return (tape.peek address, tape)

/-- Writes a byte to a cell, which exists afterwards. -/
def set (tape : Tape) (address : Address) (value : UInt8) : Except Exhausted Tape := do
  let tape ← tape.resolve address
  return tape.put address value

/-- The lengths of the two halves, the positive one first. -/
def size (tape : Tape) : Nat × Nat :=
  (tape.positive.size, tape.negative.size)

/-- The widest range of cells that can be copied at once. -/
def maxRange : Nat := 0x1000000000000

/-- A range of cells is too wide to be copied. The width is that of a word: of addresses that lie
more than half the words apart it wraps.
-/
def rangeTooWide (start stop : Address) : Bool :=
  maxRange < (stop - start).toNatClampNeg

/-- The bytes from one address up to but not including another, or nothing when the range is too
wide. A reversed range is empty. Nothing comes into being.
-/
def range? (tape : Tape) (start stop : Address) : Option (Array UInt8) :=
  if rangeTooWide start stop then none
  else
    some ((Array.range (stop.toInt - start.toInt).toNat).map fun offset =>
      tape.peek (start + Int64.ofNat offset))

end Tape

end TapeMachine
