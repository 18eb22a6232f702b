import TapeMachine.Shell.Render

/-!
When things of the debug shell are the same, which is the greater, and which may be keys.
-/

namespace TapeMachine.Shell

/-- An order satisfies a comparison. -/
def BinaryOperator.admits (operator : BinaryOperator) (order : Ordering) : Bool :=
  match operator with
  | .equal => order == .eq
  | .unequal => order != .eq
  | .less => order == .lt
  | .greater => order == .gt
  | .atMost => order != .gt
  | .atLeast => order != .lt
  | _ => false

mutual

/-- Two keys are the same. -/
def Object.isSameKey : Object → Object → Bool
  | .none, .none => true
  | .bool a, .bool b => a == b
  | .int a, .int b => a == b
  | .int a, .float b => Number.orderMixed a b == .eq
  | .float a, .int b => Number.orderMixed b a == .eq
  | .float a, .float b => Number.order a b == .eq
  | .text a, .text b => a == b
  | .bytes a, .bytes b => a == b
  | .tuple a, .tuple b => areSameKeys a b
  | .function a _, .function b _ => a == b
  | .builtin a, .builtin b => a == b
  | .probe a, .probe b => a == b
  | .method _ _ a, .method _ _ b => a == b
  | _, _ => false

/-- Two lists of keys are the same. -/
def areSameKeys : List Object → List Object → Bool
  | [], [] => true
  | a :: as, b :: bs => a.isSameKey b && areSameKeys as bs
  | _, _ => false

end

mutual

/-- Why a thing may not be a key. -/
def Object.keyFault? : Object → Option String
  | .list _ => some "unhashable type: list"
  | .dict _ => some "unhashable type: dict"
  | .set _ => some "unhashable type: set"
  | .range _ _ _ => some "unhashable: range"
  | .textBytes _ _ => some "unhashable: string.elems"
  | .textChars _ _ => some "unhashable: string.codepoints"
  | .byteNumbers _ => some "unhashable: bytes.elems"
  | .tuple items => keyFaults? items
  | _ => none

/-- Why one of several things may not be a key. -/
def keyFaults? : List Object → Option String
  | [] => none
  | item :: rest => item.keyFault?.or (keyFaults? rest)

end

/-- Two things are one and the same. -/
def Object.isIdentical : Object → Object → Bool
  | .none, .none => true
  | .function a _, .function b _ => a == b
  | .builtin a, .builtin b => a == b
  | .probe a, .probe b => a == b
  | .method _ _ a, .method _ _ b => a == b
  | .textBytes a m, .textBytes b n => a == b && m == n
  | .textChars a m, .textChars b n => a == b && m == n
  | .byteNumbers a, .byteNumbers b => a == b
  | _, _ => false

/-- The order of two lists of bytes. -/
def orderBytes : List UInt8 → List UInt8 → Ordering
  | [], [] => .eq
  | [], _ => .lt
  | _, [] => .gt
  | a :: as, b :: bs => if a < b then .lt else if b < a then .gt else orderBytes as bs

/-- Two things cannot be compared in this way. -/
def incomparable {α : Type} (operator : BinaryOperator) (x y : Object) : Run α :=
  Run.raise s!"{x.typeName} {operator.symbol} {y.typeName} not implemented"

/-- Compares two sequences, given how to compare their items: the first items that differ decide,
and otherwise the lengths.
-/
def compareItems (below : BinaryOperator → Object → Object → Run Bool) (operator : BinaryOperator)
    (lengths : Ordering) : List Object → List Object → Run Bool
  | a :: as, b :: bs => do
    if ← below .equal a b then compareItems below operator lengths as bs
    else
      match operator with
      | .equal => return false
      | .unequal => return true
      | _ => below operator a b
  | _, _ => return operator.admits lengths

/-- Compares two sequences. -/
def compareSequences (below : BinaryOperator → Object → Object → Run Bool)
    (operator : BinaryOperator) (x y : List Object) : Run Bool :=
  if x.length ≠ y.length && (operator == .equal || operator == .unequal) then
    return operator == .unequal
  else compareItems below operator (compare x.length y.length) x y

/-- Every entry has its equal among others, given how to compare values. -/
def haveEqualEntries (below : BinaryOperator → Object → Object → Run Bool)
    (others : Array (Object × Object)) : List (Object × Object) → Run Bool
  | [] => return true
  | (key, value) :: rest => do
    match others.find? fun entry => entry.1.isSameKey key with
    | none => return false
    | some (_, other) =>
      if ← below .equal value other then haveEqualEntries below others rest else return false

/-- All items are among others. -/
def areAmong (others items : Array Object) : Bool :=
  items.all fun item => others.any (·.isSameKey item)

/-- Two ranges hold the same numbers. -/
def sameRanges (a b c x y z : Int) : Bool :=
  let count := Object.rangeLength a b c
  count = Object.rangeLength x y z && (count = 0 || (a = x && (count = 1 || c = z)))

/-- Compares two things that are nested no deeper than a bound. -/
def compareWithin : Nat → BinaryOperator → Object → Object → Run Bool
  | 0, _, _, _ => Run.raise "comparison exceeded maximum recursion depth"
  | depth + 1, operator, x, y => do
    let below := compareWithin depth
    let byEquality (isEqual : Run Bool) : Run Bool := do
      match operator with
      | .equal => isEqual
      | .unequal => return !(← isEqual)
      | _ => incomparable operator x y
    match x, y with
    | .bool a, .bool b => return operator.admits (compare a.toNat b.toNat)
    | .int a, .int b => return operator.admits (compare a b)
    | .float a, .float b => return operator.admits (Number.order a b)
    | .int a, .float b => return operator.admits (Number.orderMixed a b)
    | .float a, .int b => return operator.admits (Number.orderMixed b a).swap
    | .text a, .text b => return operator.admits (orderBytes a b)
    | .bytes a, .bytes b => return operator.admits (orderBytes a b)
    | .tuple a, .tuple b => compareSequences below operator a b
    | .list a, .list b =>
      compareSequences below operator (← Run.listItems a).toList (← Run.listItems b).toList
    | .dict a, .dict b =>
      let left ← Run.dictEntries a
      let right ← Run.dictEntries b
      byEquality do
        if left.size ≠ right.size then return false
        else haveEqualEntries below right left.toList
    | .set a, .set b =>
      let left ← Run.setItems a
      let right ← Run.setItems b
      match operator with
      | .equal => return left.size = right.size && areAmong right left
      | .unequal => return !(left.size = right.size && areAmong right left)
      | .atMost => return areAmong right left
      | .atLeast => return areAmong left right
      | .less => return left.size < right.size && areAmong right left
      | .greater => return right.size < left.size && areAmong left right
      | _ => incomparable operator x y
    | .range a b c, .range p q r => byEquality (return sameRanges a b c p q r)
    | x, y => byEquality (return x.isIdentical y)

/-- How deep things may be nested that are compared. -/
def comparisonDepth : Nat := 10

namespace Run

/-- Compares two things. -/
def compare (operator : BinaryOperator) (x y : Object) : Run Bool :=
  compareWithin comparisonDepth operator x y

/-- Two things are equal. -/
def isEqual (x y : Object) : Run Bool := compare .equal x y

/-- Fails if a thing may not be a key. -/
def checkKey (key : Object) : Run Unit :=
  match key.keyFault? with
  | some message => raise message
  | none => pure ()

/-- The value under a key of a dictionary. -/
def dictValue? (address : Nat) (key : Object) : Run (Option Object) := do
  checkKey key
  return ((← dictEntries address).find? fun entry => entry.1.isSameKey key).map (·.2)

/-- Puts a value under a key of a dictionary. -/
def putEntry (address : Nat) (key value : Object) : Run Unit := do
  checkMutable "insert into" address
  checkKey key
  let entries ← dictEntries address
  match entries.findIdx? fun entry => entry.1.isSameKey key with
  | some position =>
    setDictEntries address (entries.modify position fun entry => (entry.1, value))
  | none => setDictEntries address (entries.push (key, value))

/-- Takes a key out of a dictionary; gives its value. An empty one is not searched. -/
def takeEntry? (address : Nat) (key : Object) : Run (Option Object) := do
  checkMutable "delete from" address
  let entries ← dictEntries address
  if !entries.isEmpty then checkKey key
  match entries.find? fun entry => entry.1.isSameKey key with
  | some (_, value) =>
    setDictEntries address (entries.filter fun entry => !entry.1.isSameKey key)
    return some value
  | none => return none

/-- An item is in a set. -/
def isInSet (address : Nat) (item : Object) : Run Bool := do
  checkKey item
  return (← setItems address).any (·.isSameKey item)

/-- Puts an item into a set. -/
def putItem (address : Nat) (item : Object) : Run Unit := do
  checkMutable "insert into" address
  checkKey item
  let items ← setItems address
  if !items.any (·.isSameKey item) then setSetItems address (items.push item)

/-- Takes an item out of a set; says whether it was there. An empty set is not searched. -/
def takeItem (address : Nat) (item : Object) : Run Bool := do
  checkMutable "delete from" address
  let items ← setItems address
  if !items.isEmpty then checkKey item
  if items.any (·.isSameKey item) then
    setSetItems address (items.filter (!·.isSameKey item))
    return true
  else return false

end Run

end TapeMachine.Shell
