import TapeMachine.Shell.Format

/-!
What the operators of the debug shell do.
-/

namespace TapeMachine.Shell

namespace Operator

/-- The value of an operator with one operand. -/
def unary (operator : UnaryOperator) (x : Object) : Run Object := do
  match operator, x with
  | .not, x => return .bool (!(← Run.truth x))
  | .plus, .int value => return .int value
  | .minus, .int value => return .int (-value)
  | .invert, .int value => return .int (-value - 1)
  | .plus, .float value => return .float value
  | .minus, .float value => return .float (-value)
  | _, _ => Run.raise s!"unknown unary op: {operator.symbol} {x.typeName}"

/-- A whole number as a floating-point one, which it must not be too great for. -/
def toFloat (value : Int) : Run Float :=
  match Number.ofInt? value with
  | some result => return result
  | none => Run.raise "int too large to convert to float"

/-- The operands as floating-point numbers, if both are numbers. -/
def floats? (x y : Object) : Run (Option (Float × Float)) := do
  match x, y with
  | .int a, .int b => return some (← toFloat a, ← toFloat b)
  | .int a, .float b => return some (← toFloat a, b)
  | .float a, .int b => return some (a, ← toFloat b)
  | .float a, .float b => return some (a, b)
  | _, _ => return none

/-- What holds as too much to repeat. -/
def tooLong : Int := 0x40000000

/-- A list so many times. -/
def repeated {α : Type} (items : List α) (count : Int) : Run (List α) :=
  if items.isEmpty then return []
  else if !(-0x80000000 ≤ count && count < 0x80000000) then
    Run.raise s!"repeat count {count} too large"
  else if count < 1 then return []
  else if tooLong ≤ items.length * count then
    Run.raise s!"excessive repeat ({items.length} * {count} elements)"
  else return (List.replicate count.toNat items).flatten

/-- A sequence so many times, if the thing is one. -/
def repeated? (x : Object) (count : Int) : Run (Option Object) := do
  match x with
  | .text content => return some (.text (← repeated content count))
  | .bytes content => return some (.bytes (← repeated content count))
  | .tuple items => return some (.tuple (← repeated items count))
  | .list address =>
    let items ← repeated (← Run.listItems address).toList count
    return some (← Run.newList items)
  | _ => return none

/-- Bit by bit, with as many bits as needed: two's complement without end. -/
def bitwise (onBits : Nat → Nat → Nat) (onSigns : Bool → Bool → Bool) (x y : Int) : Int :=
  let width := max (Nat.log2 x.natAbs) (Nat.log2 y.natAbs) + 2
  let modulus : Int := Nat.pow 2 width
  let bits : Int := onBits (x % modulus).toNat (y % modulus).toNat
  if onSigns (x < 0) (y < 0) then bits - modulus else bits

/-- The items of a set as another set would have them: without some, with more. -/
def without (items others : Array Object) : Array Object :=
  items.filter fun item => !others.any (·.isSameKey item)

/-- The items that both sets have, in the order of the second. -/
def common (items others : Array Object) : Array Object :=
  others.filter fun item => items.any (·.isSameKey item)

/-- The entries of a dictionary with those of another put in. -/
def mergeEntries (entries others : Array (Object × Object)) : Array (Object × Object) :=
  others.foldl (fun entries (key, value) =>
    match entries.findIdx? fun entry => entry.1.isSameKey key with
    | some position => entries.modify position fun entry => (entry.1, value)
    | none => entries.push (key, value)) entries

/-- One list of bytes is part of another. -/
def isPart (part : List UInt8) : List UInt8 → Bool
  | [] => part.isEmpty
  | byte :: rest => part.isPrefixOf (byte :: rest) || isPart part rest

/-- An item is among several. -/
def isAmong (item : Object) : List Object → Run Bool
  | [] => return false
  | first :: rest => do if ← Run.isEqual first item then return true else isAmong item rest

/-- A number is in a range, and not too great to count with. -/
def isInRange (start stop step number : Int) : Bool :=
  let isSmall : Bool := -0x80000000 ≤ number && number < 0x80000000
  let place := (number - start).tdiv step
  isSmall && start + place * step = number && 0 ≤ place
    && place < Object.rangeLength start stop step

/-- One thing is in another, if the other can hold things. -/
def contains? (x y : Object) : Run (Option Bool) := do
  match y with
  | .list address => return some (← isAmong x (← Run.listItems address).toList)
  | .tuple items => return some (← isAmong x items)
  | .dict address =>
    return some ((← Run.dictEntries address).any fun entry =>
      x.keyFault?.isNone && entry.1.isSameKey x)
  | .set address => return some (← Run.isInSet address x)
  | .text content =>
    match x with
    | .text part => return some (isPart part content)
    | other =>
      Run.raise s!"'in <string>' requires string as left operand, not {other.typeName}"
  | .bytes content =>
    match x with
    | .bytes part => return some (isPart part content)
    | .int value =>
      if 0 ≤ value && value < 256 then return some (content.contains (UInt8.ofNat value.toNat))
      else
        Run.raise s!"int in bytes: {value} out of range (want value in unsigned 8-bit range)"
    | other =>
      Run.raise s!"'in bytes' requires bytes or int as left operand, not {other.typeName}"
  | .range start stop step =>
    match x.wholeNumber with
    | .ok number => return some (isInRange start stop step number)
    | .error _ =>
      Run.raise s!"'in <range>' requires integer as left operand, not {x.typeName}"
  | _ => return none

/-- Two things added, if they can be. -/
def add? (x y : Object) : Run (Option Object) := do
  match x, y with
  | .text a, .text b => return some (.text (a ++ b))
  | .bytes a, .bytes b => return some (.bytes (a ++ b))
  | .tuple a, .tuple b => return some (.tuple (a ++ b))
  | .list a, .list b =>
    return some (← Run.newList ((← Run.listItems a) ++ (← Run.listItems b)).toList)
  | .int a, .int b => return some (.int (a + b))
  | x, y => return (← floats? x y).map fun (a, b) => .float (a + b)

/-- One thing taken from another, if it can be. -/
def subtract? (x y : Object) : Run (Option Object) := do
  match x, y with
  | .int a, .int b => return some (.int (a - b))
  | .set a, .set b => return some (← Run.newSet (without (← Run.setItems a) (← Run.setItems b)))
  | x, y => return (← floats? x y).map fun (a, b) => .float (a - b)

/-- Two things multiplied, if they can be. -/
def multiply? (x y : Object) : Run (Option Object) := do
  match x, y with
  | .int a, .int b => return some (.int (a * b))
  | .int a, .float b => return some (.float ((← toFloat a) * b))
  | .float a, .int b => return some (.float (a * (← toFloat b)))
  | .float a, .float b => return some (.float (a * b))
  | .int count, y => repeated? y count
  | x, .int count => repeated? x count
  | _, _ => return none

/-- One number divided by another, if they are numbers. -/
def divide? (x y : Object) : Run (Option Object) := do
  if let .int value := x then
    let _ ← toFloat value
  match ← floats? x y with
  | some (a, b) =>
    if b == 0 then Run.raise "floating-point division by zero"
    return some (.float (a / b))
  | none => return none

/-- One number divided by another downwards, if they are numbers. -/
def floorDivide? (x y : Object) : Run (Option Object) := do
  match x, y with
  | .int a, .int b =>
    if b = 0 then Run.raise "floored division by zero"
    return some (.int (a.fdiv b))
  | x, y =>
    match ← floats? x y with
    | some (a, b) =>
      if b == 0 then Run.raise "floored division by zero"
      return some (.float (a / b).floor)
    | none => return none

/-- What a division downwards leaves, if the things are numbers; or a text with its gaps filled. -/
def modulo? (x y : Object) : Run (Option Object) := do
  match x, y with
  | .text format, y => return some (← Format.interpolate format y)
  | .int a, .int b =>
    if b = 0 then Run.raise "integer modulo by zero"
    return some (.int (a.fmod b))
  | x, y =>
    match ← floats? x y with
    | some (a, b) =>
      if b == 0 then Run.raise "floating-point modulo by zero"
      return some (.float (Number.modulo a b))
    | none => return none

/-- A whole number with its bits moved, by an amount that is not too great to count with. -/
def shift? (isLeft : Bool) (x y : Object) : Run (Option Object) := do
  match x, y.smallInt with
  | .int _, .error cause => Run.raise cause
  | .int value, .ok count =>
    if count < 0 then Run.raise s!"negative shift count: {count}"
    if isLeft then
      if 512 ≤ count then Run.raise s!"shift count too large: {count}"
      return some (.int (value * Nat.pow 2 count.toNat))
    else if 1000000 < count then return some (.int (if value < 0 then -1 else 0))
    else return some (.int (value.fdiv (Nat.pow 2 count.toNat)))
  | _, _ => return none

/-- Two things with one of the operators on bits and sets, if they can be. -/
def bits? (operator : BinaryOperator) (x y : Object) : Run (Option Object) := do
  match operator, x, y with
  | .bitOr, .int a, .int b => return some (.int (bitwise (· ||| ·) (· || ·) a b))
  | .bitAnd, .int a, .int b => return some (.int (bitwise (· &&& ·) (· && ·) a b))
  | .bitXor, .int a, .int b => return some (.int (bitwise (· ^^^ ·) (· != ·) a b))
  | .bitOr, .dict a, .dict b =>
    return some (← Run.newDict (mergeEntries (← Run.dictEntries a) (← Run.dictEntries b)))
  | operator, .set a, .set b =>
    let left ← Run.setItems a
    let right ← Run.setItems b
    match operator with
    | .bitOr => return some (← Run.newSet (left ++ without right left))
    | .bitAnd => return some (← Run.newSet (common left right))
    | .bitXor => return some (← Run.newSet (without left right ++ without right left))
    | _ => return none
  | _, _, _ => return none

/-- The value of an operator with two operands, of which both are known. -/
def binary (operator : BinaryOperator) (x y : Object) : Run Object := do
  let result ← match operator with
    | .plus => add? x y
    | .minus => subtract? x y
    | .times => multiply? x y
    | .divide => divide? x y
    | .floorDivide => floorDivide? x y
    | .modulo => modulo? x y
    | .shiftLeft => shift? true x y
    | .shiftRight => shift? false x y
    | .isIn => do pure ((← contains? x y).map .bool)
    | .isNotIn => do pure ((← contains? x y).map fun found => .bool (!found))
    | .bitOr => bits? .bitOr x y
    | .bitXor => bits? .bitXor x y
    | .bitAnd => bits? .bitAnd x y
    | comparison => do pure (some (.bool (← Run.compare comparison x y)))
  match result, operator with
  | some value, _ => return value
  | none, .isNotIn => Run.raise s!"unknown binary op: {x.typeName} in {y.typeName}"
  | none, _ => Run.raise s!"unknown binary op: {x.typeName} {operator.symbol} {y.typeName}"

/-- The value of an assignment that combines an old value with another. A list, a dictionary or a
set is itself extended.
-/
def update (operator : BinaryOperator) (x y : Object) : Run Object := do
  match operator, x, y with
  | .plus, .list address, y =>
    match ← Run.items? y with
    | some items =>
      Run.checkMutable "apply += to" address
      Run.setListItems address ((← Run.listItems address) ++ items.toArray)
      return x
    | none => binary operator x y
  | .bitOr, .dict address, .dict other =>
    Run.checkMutable "apply |= to" address
    let entries ← Run.dictEntries address
    Run.setDictEntries address (mergeEntries entries (← Run.dictEntries other))
    return x
  | operator, x, y => binary operator x y

end Operator

end TapeMachine.Shell
