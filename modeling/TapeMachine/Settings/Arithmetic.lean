import TapeMachine.Settings.Expr

/-!
The operations on data without parts.
-/

namespace TapeMachine.Settings

/-- The greatest number of bytes that a repetition may give. -/
def maxRepetition : Nat := 0x4000000

/-- The result of dividing integers, or nothing if the divisor is zero. -/
def Operation.divideIntegers? (operation : Operation) (x y : Int) : Option Int :=
  if y = 0 then none
  else
    match operation with
    | .div => some (Int.ediv x y)
    | .mod => some (Int.emod x y)
    | .quo => some (Int.tdiv x y)
    | .rem => some (Int.tmod x y)
    | _ => none

/-- The result of an arithmetical operation on numbers. -/
def Operation.calculate? (operation : Operation) (x y : Number) : Option Number :=
  match operation with
  | .add => x.add? y
  | .subtract => x.add? y.negate
  | .multiply => x.multiply? y
  | .divide => x.divide? y
  | _ =>
    if x.isInteger && y.isInteger then
      (operation.divideIntegers? x.digits y.digits).map Number.ofInt
    else none

/-- The result of comparing two data that have an order. -/
def Operation.compare? (operation : Operation) (order : Ordering) : Option Bool :=
  match operation with
  | .equal => some (order == .eq)
  | .unequal => some (order != .eq)
  | .less => some (order == .lt)
  | .atMost => some (order != .gt)
  | .greater => some (order == .gt)
  | .atLeast => some (order != .lt)
  | _ => none

/-- A list repeated, if the result is not too long. -/
def repeat? {α : Type} (count : Number) (items : List α) : Option (List α) :=
  if !count.isInteger || count.digits < 0 then none
  else if maxRepetition < count.digits.toNat * items.length then none
  else some (List.replicate count.digits.toNat items).flatten

/-- The result of an operation on two data, or nothing if they are not fit for it. -/
def Operation.onAtoms? (operation : Operation) (left right : Atom) : Option Atom :=
  match operation, left, right with
  | .and, .bool x, .bool y => some (.bool (x && y))
  | .or, .bool x, .bool y => some (.bool (x || y))
  | .isMatch, .text x, .text y =>
    (Text.Pattern.ofText? y).map fun pattern => .bool (pattern.isFoundIn x)
  | .isNoMatch, .text x, .text y =>
    (Text.Pattern.ofText? y).map fun pattern => .bool (!pattern.isFoundIn x)
  | .equal, .bool x, .bool y => some (.bool (x == y))
  | .unequal, .bool x, .bool y => some (.bool (x != y))
  | .equal, .null, y => some (.bool (y == .null))
  | .equal, x, .null => some (.bool (x == .null))
  | .unequal, .null, y => some (.bool (y != .null))
  | .unequal, x, .null => some (.bool (x != .null))
  | .add, .text x, .text y => some (.text (x ++ y))
  | .add, .bytes x, .bytes y => some (.bytes (x ++ y))
  | .multiply, .text x, .number y =>
    (repeat? y x.toList).map fun chars => .text (String.ofList chars)
  | .multiply, .number x, .text y =>
    (repeat? x y.toList).map fun chars => .text (String.ofList chars)
  | .multiply, .bytes x, .number y => (repeat? y x).map .bytes
  | .multiply, .number x, .bytes y => (repeat? x y).map .bytes
  | operation, left, right =>
    match left.order? right with
    | none => none
    | some order =>
      match operation.compare? order, left, right with
      | some truth, _, _ => some (.bool truth)
      | none, .number x, .number y => (operation.calculate? x y).map .number
      | none, _, _ => none

/-- The result of a sign in front of a datum, or nothing if it is not fit for it. -/
def Sign.onAtom? (sign : Sign) (operand : Atom) : Option Scalar :=
  match sign, operand with
  | .plus, .number value => some (.atom (.number value))
  | .minus, .number value => some (.atom (.number value.negate))
  | .not, .bool value => some (.atom (.bool !value))
  | .bound relation, limit =>
    (Bound.of? relation limit).map fun bound => .described bound.kinds [bound]
  | _, _ => none

end TapeMachine.Settings
