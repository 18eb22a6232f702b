import TapeMachine.Shell.Object
import TapeMachine.Text.Utf8

/-!
Going through the things of the debug shell item by item. The numbers of a range are made when they
are needed, since there may be more of them than one would like to have at once.
-/

namespace TapeMachine.Shell

/-- What is ahead when one goes through a thing. -/
inductive Course where
  | items (rest : List Object)
  /-- So many numbers in steps. -/
  | numbers (first step : Int) (count : Nat)
  deriving Inhabited

namespace Course

/-- How many items are ahead. -/
def length : Course → Nat
  | items rest => rest.length
  | numbers _ _ count => count

/-- The next item, and what is ahead then. -/
def next? : Course → Option (Object × Course)
  | items [] => none
  | items (item :: rest) => some (item, items rest)
  | numbers _ _ 0 => none
  | numbers first step (count + 1) => some (.int first, numbers (first + step) step count)

/-- The items ahead, but no more than so many. -/
def take (most : Nat) : Course → List Object
  | items rest => rest.take most
  | numbers first step count =>
    (List.range (min most count)).map fun (position : Nat) => .int (first + step * position)

/-- All items ahead. -/
def toList (course : Course) : List Object := course.take course.length

/-- Goes on until a step has an outcome. The first argument bounds the number of steps. -/
def findWithin {α : Type} (step : Object → Run (Option α)) : Nat → Course → Run (Option α)
  | 0, _ => return none
  | fuel + 1, course => do
    match course.next? with
    | none => return none
    | some (item, rest) =>
      match ← step item with
      | some found => return some found
      | none => findWithin step fuel rest

/-- Goes through all items until a step has an outcome. -/
def find? {α : Type} (course : Course) (step : Object → Run (Option α)) : Run (Option α) :=
  findWithin step course.length course

/-- Goes through all items. -/
def forM (course : Course) (step : Object → Run Unit) : Run Unit := do
  let _ ← course.find? fun item => do
    step item
    return (none : Option Unit)

/-- What comes of each item and its number, from a number on, given what came of the items before,
the last one first. The second argument bounds how many items follow.
-/
def mapFrom {α : Type} (step : Nat → Object → Run α)
    : Nat → Nat → List α → Course → Run (List α)
  | _, 0, done, _ => return done.reverse
  | number, fuel + 1, done, course => do
    match course.next? with
    | none => return done.reverse
    | some (item, rest) =>
      let outcome ← step number item
      mapFrom step (number + 1) fuel (outcome :: done) rest

/-- What comes of each item and its number. -/
def mapM {α : Type} (course : Course) (step : Nat → Object → Run α) : Run (List α) :=
  mapFrom step 0 course.length [] course

end Course

namespace Run

/-- What is ahead when one goes through a thing, if one can. -/
def course? (object : Object) : Run (Option Course) := do
  match object with
  | .tuple items => return some (.items items)
  | .range start stop step =>
    return some (.numbers start step (Object.rangeLength start stop step))
  | .list address => return some (.items (← listItems address).toList)
  | .dict address => return some (.items ((← dictEntries address).toList.map (·.1)))
  | .set address => return some (.items (← setItems address).toList)
  | .textBytes content asNumbers =>
    return some (.items (content.map fun byte =>
      if asNumbers then .int byte.toNat else .text [byte]))
  | .textChars content asNumbers =>
    return some (.items ((Text.decode content).map fun c =>
      if asNumbers then .int c.toNat else .text (Text.encode [c])))
  | .byteNumbers content => return some (.items (content.map fun byte => .int byte.toNat))
  | _ => return none

/-- The items of a thing, if one can go through it. -/
def items? (object : Object) : Run (Option (List Object)) :=
  return (← course? object).map Course.toList

end Run

end TapeMachine.Shell
