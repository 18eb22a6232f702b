import TapeMachine.Shell.Operator
import TapeMachine.Text.Nearest

/-!
Parts of things: an item at a place or under a key, a range of items, and the methods that things
have.
-/

namespace TapeMachine.Shell

namespace Access

/-- What is said about a place that a sequence does not have. -/
def outOfRange (place : Int) (length : Nat) (typeName : String) : String :=
  if length = 0 then s!"index {place} out of range: empty {typeName}"
  else s!"{typeName} index {place} out of range [{-(length : Int)}:{(length : Int) - 1}]"

/-- The position of a place in a sequence; a negative place counts from the end. -/
def position (place : Int) (length : Nat) (typeName : String) : Except String Nat :=
  let found := if place < 0 then place + length else place
  if 0 ≤ found && found < length then .ok found.toNat
  else .error (outOfRange place length typeName)

/-- The outcome of something that may be refused. -/
def orRaise {α : Type} (outcome : Except String α) : Run α :=
  match outcome with
  | .ok value => return value
  | .error message => Run.raise message

/-- How many places a thing has and what is at each of them, if it has places. -/
def places? (x : Object) : Run (Option (Nat × (Nat → Object))) := do
  match x with
  | .text content => return some (content.length, fun place => .text [content.getD place 0])
  | .bytes content => return some (content.length, fun place => .bytes [content.getD place 0])
  | .tuple items => return some (items.length, fun place => items.getD place .none)
  | .list address =>
    let items ← Run.listItems address
    return some (items.size, fun place => items.getD place .none)
  | .range start stop step =>
    return some (Object.rangeLength start stop step, fun place => .int (start + step * place))
  | .textBytes content asNumbers =>
    return some (content.length, fun place =>
      let byte := content.getD place 0
      if asNumbers then .int byte.toNat else .text [byte])
  | _ => return none

/-- The item at a place or under a key. -/
def index (x key : Object) : Run Object := do
  match x with
  | .dict address =>
    match ← Run.dictValue? address key with
    | some value => return value
    | none => Run.raise s!"key {← Run.render key} not in dict"
  | x =>
    match ← places? x with
    | some (length, item) =>
      match key.smallInt with
      | .ok place => return item (← orRaise (position place length x.typeName))
      | .error cause => Run.raise s!"{x.typeName} index: {cause}"
    | none => Run.raise s!"unhandled index operation {x.typeName}[{key.typeName}]"

/-- Puts an item at a place or under a key. -/
def setIndex (x key value : Object) : Run Unit := do
  match x with
  | .dict address => Run.putEntry address key value
  | .list address =>
    let items ← Run.listItems address
    let place ← orRaise key.smallInt
    let found ← orRaise (position place items.size "list")
    Run.checkMutable "assign to element of" address
    Run.setListItems address (items.setIfInBounds found value)
  | other => Run.raise s!"{other.typeName} value does not support item assignment"

/-- A bound of a range of places: none is given, or one that counts from the end if negative. -/
def bound (what : String) (given : Object) (length : Nat) (otherwise : Int) : Run Int := do
  match given with
  | .none => return otherwise
  | given =>
    match given.smallInt with
    | .ok place => return if place < 0 then place + length else place
    | .error cause => Run.raise s!"invalid {what} index: {cause}"

/-- The two ends of a range of places, both of them within a length. -/
def ends (low high : Object) (length : Nat) : Run (Nat × Nat) := do
  let clamp (place : Int) : Nat := min place.toNat length
  let start ← bound "start" low length 0
  let stop ← bound "end" high length length
  return (clamp start, clamp stop)

/-- The items of a list between two places, in steps. -/
def stride {α : Type} (items : Array α) (start stop step : Int) : List α :=
  let count := Object.rangeLength start stop step
  (List.range count).filterMap fun (number : Nat) => items[(start + step * number).toNat]?

/-- The range of items between two places, in steps; given where to begin and where to end. -/
def cut (x : Object) (start stop step : Int) : Run Object := do
  match x with
  | .text content => return .text (stride content.toArray start stop step)
  | .bytes content => return .bytes (stride content.toArray start stop step)
  | .tuple items => return .tuple (stride items.toArray start stop step)
  | .list address => Run.newList (stride (← Run.listItems address) start stop step)
  | .range first _ pace =>
    return .range (first + pace * start) (first + pace * stop) (pace * step)
  | other => return other

/-- A range of items, some of whose bounds may be missing. -/
def slice (x low high step : Object) : Run Object := do
  let length? ← match x with
    | .text content => pure (some content.length)
    | .bytes content => pure (some content.length)
    | .tuple items => pure (some items.length)
    | .list address => do pure (some (← Run.listItems address).size)
    | .range start stop step => pure (some (Object.rangeLength start stop step))
    | _ => pure none
  match length? with
  | none => Run.raise s!"invalid slice operand {x.typeName}"
  | some length =>
    let pace ← match step with
      | .none => pure 1
      | step =>
        match step.smallInt with
        | .ok pace => pure pace
        | .error cause => Run.raise s!"invalid slice step: {cause}"
    if pace = 0 then Run.raise "zero is not a valid slice step"
    if 0 < pace then
      let (start, stop) ← ends low high length
      cut x start (max start stop) pace
    else
      let last : Int := (length : Int) - 1
      let start := min (← bound "start" low length last) last
      let stop := max (← bound "end" high length (-1)) (-1)
      cut x (max start stop) stop pace

/-- The methods that things of a type have, in order. -/
def methodNames : Object → List String
  | .text _ =>
    ["capitalize", "codepoint_ords", "codepoints", "count", "elem_ords", "elems", "endswith",
      "find", "format", "index", "isalnum", "isalpha", "isdigit", "islower", "isspace", "istitle",
      "isupper", "join", "lower", "lstrip", "partition", "removeprefix", "removesuffix", "replace",
      "rfind", "rindex", "rpartition", "rsplit", "rstrip", "split", "splitlines", "startswith",
      "strip", "title", "upper"]
  | .bytes _ => ["elems"]
  | .list _ => ["append", "clear", "extend", "index", "insert", "pop", "remove"]
  | .dict _ =>
    ["clear", "get", "items", "keys", "pop", "popitem", "setdefault", "update", "values"]
  | .set _ =>
    ["add", "clear", "difference", "discard", "intersection", "issubset", "issuperset", "pop",
      "remove", "symmetric_difference", "union", "update"]
  | _ => []

/-- A method of a thing, if it has one of that name. -/
def method? (x : Object) (name : String) : Run (Option Object) := do
  if (methodNames x).contains name then
    let world ← get
    set { world with methods := world.methods + 1 }
    return some (.method name x world.methods)
  else return none

/-- A member of a thing. -/
def member (x : Object) (name : String) : Run Object := do
  match ← method? x name with
  | some found => return found
  | none =>
    let hint := match Text.nearest? name (methodNames x) with
      | some meant => s!" (did you mean .{meant}?)"
      | none => ""
    Run.raise s!"{x.typeName} has no .{name} field or method{hint}"

end Access

end TapeMachine.Shell
