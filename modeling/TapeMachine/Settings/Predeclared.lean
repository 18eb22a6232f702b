import TapeMachine.Settings.Scalar

/-!
The names that are always known: kinds of data, ranges of numbers, and functions.
-/

namespace TapeMachine.Settings

/-- The functions that are always known. -/
inductive Builtin where
  | length
  | close
  | allOf
  | oneOf
  | div
  | mod
  | quo
  | rem
  | fail
  deriving DecidableEq, Inhabited

/-- What a name stands for that is always known. -/
inductive Predeclared where
  | scalar (value : Scalar)
  | function (function : Builtin)
  deriving DecidableEq, Inhabited

namespace Predeclared

/-- What is described by kinds alone. -/
def ofKinds (kinds : List Kind) : Predeclared := .scalar (.described kinds [])

/-- The numbers of some kinds between two limits, both included. -/
def range (kinds : List Kind) (low high : Number) : Predeclared :=
  .scalar (.described kinds [⟨.atLeast, .number low⟩, ⟨.atMost, .number high⟩])

/-- The integers of a number of bits with a sign. -/
def signed (bits : Nat) : Predeclared :=
  let bound : Int := (Nat.pow 2 (bits - 1) : Nat)
  range [.integer] (.ofInt (-bound)) (.ofInt (bound - 1))

/-- The integers of a number of bits without a sign. -/
def unsigned (bits : Nat) : Predeclared :=
  range [.integer] (.ofInt 0) (.ofInt ((Nat.pow 2 bits : Nat) - 1))

/-- The numbers that are at most as far from zero as the greatest of a floating-point format. -/
def floating (greatest : Number) : Predeclared :=
  range Kind.numeric greatest.negate greatest

/-- The names that may have two underscores in front. -/
def core : List (String × Predeclared) :=
  [("string", ofKinds [.text]), ("bytes", ofKinds [.bytes]), ("bool", ofKinds [.bool]),
    ("int", ofKinds [.integer]), ("float", ofKinds [.fraction]), ("number", ofKinds Kind.numeric),
    ("len", .function .length), ("close", .function .close), ("and", .function .allOf),
    ("or", .function .oneOf), ("div", .function .div), ("mod", .function .mod),
    ("quo", .function .quo), ("rem", .function .rem), ("error", .function .fail)]

/-- The names of ranges. -/
def ranges : List (String × Predeclared) :=
  [("rune", range [.integer] (.ofInt 0) (.ofInt 0x10ffff)),
    ("int8", signed 8), ("int16", signed 16),
    ("int32", signed 32), ("int64", signed 64), ("int128", signed 128),
    ("uint", .scalar (.described [.integer] [⟨.atLeast, .int 0⟩])), ("uint8", unsigned 8),
    ("uint16", unsigned 16), ("uint32", unsigned 32), ("uint64", unsigned 64),
    ("uint128", unsigned 128),
    ("float32", floating ⟨false, 340282346638528859811704183484516925440, 0⟩),
    ("float64", floating Number.greatestFloat)]

/-- What a name stands for, if it is always known. -/
def find? (name : String) : Option Predeclared :=
  if name = "_" then some (.scalar .anything)
  else
    match core.lookup name, ranges.lookup name with
    | some meaning, _ => some meaning
    | none, some meaning => some meaning
    | none, none =>
      if name.startsWith "__" then core.lookup (name.drop 2).toString else none

end Predeclared

end TapeMachine.Settings
