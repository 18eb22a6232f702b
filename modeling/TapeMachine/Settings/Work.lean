import TapeMachine.Settings.Arithmetic
import TapeMachine.Settings.Resolve

/-!
The values of expressions that are worked out at once: operations, calls and texts with expressions
in them.
-/

namespace TapeMachine.Settings

namespace Evaluator

variable (ev : Evaluator)

/-- The value of an expression that has a node of its own. -/
def ownNode (scope : List Frame) (owner : NodeId) (expr : Expr) : Eval Outcome := do
  let id ← Eval.newPart owner { expr, scope }
  ev.settle (← ev.outcome id)

/-- The outcome of an operation, which fails if it has no result. -/
def ofResult : Option Scalar → Outcome
  | some value => .scalar value
  | none => .failed true

/-- Two outcomes of which at least one is no datum: a failure is passed on, and what is not known
yet may come.
-/
def unready (left right : Outcome) : Outcome :=
  let isFinal : Outcome → Bool
    | .failed isFinal => isFinal
    | _ => false
  let isOpen : Outcome → Bool
    | .scalar (.described ..) => true
    | .choice _ => true
    | .failed isFinal => !isFinal
    | _ => false
  if isFinal left || isFinal right then .failed true
  else if isOpen left || isOpen right then .failed false
  else .failed true

/-- The result of an operation on two outcomes. -/
def operate (operation : Operation) (left right : Outcome) : Eval Outcome := do
  match operation, left, right with
  | _, .scalar (.atom x), .scalar (.atom y) =>
    return ofResult ((operation.onAtoms? x y).map .atom)
  | .equal, .list x, .list y => return .scalar (.atom (.bool (← same x y)))
  | .unequal, .list x, .list y => return .scalar (.atom (.bool !(← same x y)))
  | .equal, .scalar (.atom .null), .list _ => return .scalar (.atom (.bool false))
  | .equal, .scalar (.atom .null), .record _ => return .scalar (.atom (.bool false))
  | .equal, .list _, .scalar (.atom .null) => return .scalar (.atom (.bool false))
  | .equal, .record _, .scalar (.atom .null) => return .scalar (.atom (.bool false))
  | .unequal, .scalar (.atom .null), .list _ => return .scalar (.atom (.bool true))
  | .unequal, .scalar (.atom .null), .record _ => return .scalar (.atom (.bool true))
  | .unequal, .list _, .scalar (.atom .null) => return .scalar (.atom (.bool true))
  | .unequal, .record _, .scalar (.atom .null) => return .scalar (.atom (.bool true))
  | _, _, _ => return unready left right
where
  same (x y : NodeId) : Eval Bool := do return (← ev.whole x).isSame (← ev.whole y)

/-- An expression has no value. -/
def fails (scope : List Frame) (owner : NodeId) (expr : Expr) : Eval Bool := do
  match (← ev.settledValue scope owner expr) with
  | .failed _ => return true
  | .record id => return !(← ev.whole id).isPossible
  | .list id => return !(← ev.whole id).isPossible
  | _ => return false

/-- The value of two expressions joined by an operation. A side that decides alone is enough for a
logical operation, and a comparison with what has no value asks whether there is one.
-/
def join (scope : List Frame) (owner : NodeId) (operation : Operation) (left right : Expr)
    : Eval Outcome := do
  match operation, left, right with
  | .equal, .never, expr => return .scalar (.atom (.bool (← ev.fails scope owner expr)))
  | .equal, expr, .never => return .scalar (.atom (.bool (← ev.fails scope owner expr)))
  | .unequal, .never, expr => return .scalar (.atom (.bool !(← ev.fails scope owner expr)))
  | .unequal, expr, .never => return .scalar (.atom (.bool !(← ev.fails scope owner expr)))
  | _, _, _ =>
    let first ← ev.settledValue scope owner left
    match operation, first with
    | .and, .scalar (.atom (.bool false)) => return first
    | .or, .scalar (.atom (.bool true)) => return first
    | _, _ => ev.operate operation first (← ev.settledValue scope owner right)

/-- The value of an expression behind a sign. -/
def signed (scope : List Frame) (owner : NodeId) (sign : Sign) (operand : Expr) : Eval Outcome := do
  let isKind : Bool := match operand with
    | .reference name => (Predeclared.find? name).isSome
    | _ => false
  match (← ev.settledValue scope owner operand) with
  | .scalar (.atom value) => return ofResult (sign.onAtom? value)
  | .scalar (.described ..) =>
    match sign with
    | .bound _ => return .failed isKind
    | _ => return .failed false
  | .choice _ => return .failed false
  | .failed isFinal => return .failed isFinal
  | _ => return .failed true

/-- The text, or bytes, of expressions one behind the other. -/
def interpolate (scope : List Frame) (owner : NodeId) (isBytes : Bool) (bytes : List UInt8)
    : List Expr → Eval Outcome
  | [] =>
    return .scalar (.atom (if isBytes then .bytes bytes
      else .text ((String.fromUTF8? ⟨bytes.toArray⟩).getD "")))
  | part :: rest => do
    match (← ev.settledValue scope owner part) with
    | .scalar (.atom value) =>
      match value.bytesInText? with
      | some more => interpolate scope owner isBytes (bytes ++ more) rest
      | none => return .failed true
    | .scalar (.described ..) => return .failed false
    | .choice _ => return .failed false
    | .failed isFinal => return .failed isFinal
    | _ => return .failed true

/-- The length of a value: bytes of a text, elements of a list, or fields of a record. -/
def lengthOf : Outcome → Eval Outcome
  | .scalar (.atom (.text text)) => return .scalar (.atom (.int text.utf8ByteSize))
  | .scalar (.atom (.bytes bytes)) => return .scalar (.atom (.int bytes.length))
  | .scalar (.atom _) => return .failed true
  | .scalar (.described ..) => return .failed false
  | .choice _ => return .failed false
  | .failed isFinal => return .failed isFinal
  | .list id => do
    let node ← Eval.node id
    return if node.isOpenList then .failed false else .scalar (.atom (.int node.elements.length))
  | .record id => do return .scalar (.atom (.int (← Eval.node id).countFields))

/-- The value of a function for arguments. The functions that describe a value by others are no
matter of operations.
-/
def apply (scope : List Frame) (owner : NodeId) (function : Builtin) (arguments : List Expr)
    : Eval Outcome := do
  let divide (operation : Operation) : Eval Outcome :=
    match arguments with
    | [left, right] => ev.join scope owner operation left right
    | _ => return .failed true
  match function, arguments with
  | .length, [argument] => lengthOf (← ev.settledValue scope owner argument)
  | .div, _ => divide .div
  | .mod, _ => divide .mod
  | .quo, _ => divide .quo
  | .rem, _ => divide .rem
  | .close, _ => ev.ownNode scope owner (.call (.reference "__close") arguments)
  | .allOf, _ => ev.ownNode scope owner (.call (.reference "__and") arguments)
  | .oneOf, _ => ev.ownNode scope owner (.call (.reference "__or") arguments)
  | _, _ => return .failed true

/-- The datum that is given to a function. -/
def argument (scope : List Frame) (owner : NodeId) (expr : Expr) : Eval (Except Bool Value) := do
  let whole (id : NodeId) : Eval (Except Bool Value) := do
    let value ← ev.whole id
    match value.datum? with
    | some datum => return .ok datum
    | none => return .error !value.isPossible
  match (← ev.settledValue scope owner expr) with
  | .scalar (.atom value) => return .ok (.atom value)
  | .scalar (.described ..) => return .error false
  | .choice _ => return .error false
  | .failed isFinal => return .error isFinal
  | .list id => whole id
  | .record id => whole id

/-- The data that are given to a function, if all of them are known. -/
def arguments (scope : List Frame) (owner : NodeId) : List Expr → Eval (Except Bool (List Value))
  | [] => return .ok []
  | expr :: rest => do
    match (← ev.argument scope owner expr), (← arguments scope owner rest) with
    | .ok value, .ok more => return .ok (value :: more)
    | .error isFinal, .ok _ => return .error isFinal
    | .ok _, .error isFinal => return .error isFinal
    | .error first, .error second => return .error (first || second)

/-- The value of a function of a package for arguments. -/
def applyMember (scope : List Frame) (owner : NodeId) (path name : String) (given : List Expr)
    : Eval Outcome := do
  let order? : Option Expr := match path, name, given with
    | "list", "Sort", [_, order] => some order
    | "list", "SortStable", [_, order] => some order
    | _, _, _ => none
  let isDescending? : Option Bool ← match order? with
    | none => pure none
    | some order => do
      match (← ev.find scope owner order) with
      | .member "list" "Ascending" => pure (some false)
      | .member "list" "Descending" => pure (some true)
      | _ => pure none
  let data := if isDescending?.isSome then given.take 1 else given
  match (← ev.arguments scope owner data) with
  | .error isFinal => return .failed isFinal
  | .ok values =>
    let result := match isDescending?, values with
      | some isDescending, [.list items false] => Package.sorted? isDescending items
      | some _, _ => none
      | none, _ => Package.call? path name values
    match result with
    | none => return .failed true
    | some (.scalar value) => return .scalar value
    | some value => ev.ownNode [] owner value.toExpr

/-- A place in a list that a slice begins or ends with. -/
def sliceBound (scope : List Frame) (owner : NodeId) (standard : Nat) : Option Expr
    → Eval (Except Bool Nat)
  | none => return .ok standard
  | some expr => do
    match (← ev.settledValue scope owner expr) with
    | .scalar (.atom (.number number)) =>
      return if number.isInteger && decide (0 ≤ number.digits) then .ok number.digits.toNat
        else .error true
    | .scalar (.described ..) => return .error false
    | .choice _ => return .error false
    | .failed isFinal => return .error isFinal
    | _ => return .error true

/-- The list of nodes. -/
def listOf (owner : NodeId) (nodes : List NodeId) : Eval Outcome := do
  let names := nodes.map toString
  let bindings := List.zip names (nodes.map Binding.node)
  ev.ownNode [.names bindings] owner (.list (names.map .reference) none)

/-- The part of a list between two places. -/
def slice (scope : List Frame) (owner : NodeId) (base : Expr) (low high : Option Expr)
    : Eval Outcome := do
  match (← ev.settledValue scope owner base) with
  | .list id =>
    let elements := (← Eval.node id).elements
    let start ← ev.sliceBound scope owner 0 low
    let stop ← ev.sliceBound scope owner elements.length high
    match start, stop with
    | .ok start, .ok stop =>
      if start ≤ stop && stop ≤ elements.length then
        ev.listOf owner ((elements.take stop).drop start)
      else return .failed true
    | .error isFinal, _ => return .failed isFinal
    | _, .error isFinal => return .failed isFinal
  | .scalar (.described ..) => return .failed false
  | .choice _ => return .failed false
  | .failed isFinal => return .failed isFinal
  | _ => return .failed true

/-- The value of an expression. -/
def evaluate (scope : List Frame) (owner : NodeId) (expr : Expr) : Eval Outcome := do
  match expr with
  | .atom value => return .scalar (.atom value)
  | .never => return .failed true
  | .reference _ => ev.outcomeOf (← ev.find scope owner expr)
  | .select .. => ev.outcomeOf (← ev.find scope owner expr)
  | .index .. => ev.outcomeOf (← ev.find scope owner expr)
  | .slice base low high => ev.slice scope owner base low high
  | .call function arguments =>
    match (← ev.find scope owner function) with
    | .function function => ev.apply scope owner function arguments
    | .member path name => ev.applyMember scope owner path name arguments
    | .missing isFinal => return .failed isFinal
    | _ => return .failed true
  | .sign sign operand => ev.signed scope owner sign operand
  | .interpolation isBytes parts => ev.interpolate scope owner isBytes [] parts
  | .join .both .. => ev.ownNode scope owner expr
  | .join .either .. => ev.ownNode scope owner expr
  | .join operation left right => ev.join scope owner operation left right
  | .list .. => ev.ownNode scope owner expr
  | .record _ => ev.ownNode scope owner expr
  | .comprehension .. => return .failed true
  | .aliased .. => ev.ownNode scope owner expr

end Evaluator

end TapeMachine.Settings
