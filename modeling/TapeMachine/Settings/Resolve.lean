import TapeMachine.Settings.Package
import TapeMachine.Settings.Store

/-!
What names, selections and indices lead to.
-/

namespace TapeMachine.Settings

/-- What an expression leads to. -/
inductive Found where
  | node (id : NodeId)
  | scalar (value : Scalar)
  | function (function : Builtin)
  | package (path : String)
  /-- A member of a package. -/
  | member (path name : String)
  /-- There is nothing; if that is not final, there may be something later. -/
  | missing (isFinal : Bool)

namespace Evaluator

variable (ev : Evaluator)

/-- The preferred option of a choice, if there is exactly one. -/
def settle : Outcome → Eval Outcome
  | .choice options =>
    match options.filter (·.1) with
    | [(_, id)] => ev.outcome id
    | _ => return .choice options
  | outcome => return outcome

/-- The value of an expression, with choices settled. -/
def settledValue (scope : List Frame) (owner : NodeId) (expr : Expr) : Eval Outcome := do
  ev.settle (← ev.value scope owner expr)

/-- A field of a node. -/
def field (id : NodeId) (name : FieldName) : Eval Found := do
  ev.gather id
  match (← Eval.node id).children.find? (·.1 == name) with
  | some (_, .present, child) => return .node child
  | _ => return .missing false

/-- A rule holds for fields of a name. -/
def applies (owner : NodeId) (rule : FieldRule) (name : String) : Eval Bool := do
  match (← ev.settledValue rule.conjunct.scope owner rule.name) with
  | .scalar scalar => return (scalar.meet? (.atom (.text name))).isSome
  | _ => return false

/-- A node has a place for a field: every closed group declares it, or is open. -/
def admits (id : NodeId) : FieldName → Eval Bool
  | .plain text => do
    let literals := (← Eval.node id).literals
    let groups := (literals.flatMap fun literal => literal.tags.map (·.group)).eraseDups
    groups.allM fun group => do
      let tagged := literals.filter fun literal => literal.tags.any (·.group == group)
      let families := tagged.map (·.family)
      let members := literals.filter fun literal => families.contains literal.family
      if members.any fun literal => literal.isOpen || literal.names.contains (.plain text) then
        return true
      members.anyM fun literal => literal.rules.anyM fun rule => ev.applies id rule text
  | _ => return true

/-- The field of a name in what a node has turned out to be. -/
def select (name : FieldName) : Outcome → Eval Found
  | .record id => do
    match (← ev.field id name) with
    | .missing _ => return .missing !(← ev.admits id name)
    | found => return found
  | .failed isFinal => return .missing isFinal
  | .scalar (.described kinds _) => return .missing !(kinds.contains .record)
  | .choice _ => return .missing false
  | _ => return .missing true

/-- The element at a place in what a node has turned out to be. -/
def element (place : Int) : Outcome → Eval Found
  | .list id => do
    let node ← Eval.node id
    if place < 0 then return .missing true
    match node.elements[place.toNat]? with
    | some child => return .node child
    | none => return .missing !node.isOpenList
  | .failed isFinal => return .missing isFinal
  | .scalar (.described kinds _) => return .missing !(kinds.contains .list)
  | .choice _ => return .missing false
  | _ => return .missing true

/-- What has been found, as an outcome. -/
def outcomeOf : Found → Eval Outcome
  | .node id => do ev.settle (← ev.outcome id)
  | .scalar value => return .scalar value
  | .missing isFinal => return .failed isFinal
  | .member path name =>
    match Package.constant? path name with
    | some value => return .scalar (.atom value)
    | none => return .failed true
  | _ => return .failed true

/-- What a name stands for in a scope. -/
def findName (owner : NodeId) (name : String) : List Frame → Eval Found
  | [] =>
    match Predeclared.find? name with
    | some (.scalar value) => return .scalar value
    | some (.function function) => return .function function
    | none => return .missing true
  | .record node meanings :: outer =>
    match meanings.lookup name with
    | none => findName owner name outer
    | some (.field fieldName) => ev.field node fieldName
    | some (.node id) => return .node id
    | some (.computed expr) => do
      match (← ev.settledValue (.record node meanings :: outer) owner expr) with
      | .scalar (.atom (.text text)) => ev.field node (.plain text)
      | .failed isFinal => return .missing isFinal
      | _ => return .missing true
  | .names bindings :: outer =>
    match bindings.lookup name with
    | none => findName owner name outer
    | some (.node id) => return .node id
    | some (.atom value) => return .scalar (.atom value)
    | some (.package path) => return .package path

/-- What an expression leads to. Any expression that is no path has a node of its own. -/
def find (scope : List Frame) (owner : NodeId) : Expr → Eval Found
  | .reference name => ev.findName owner name scope
  | .select base name => do
    match (← find scope owner base) with
    | .package path => return .member path ((name.plain?).getD "")
    | found => ev.select name (← ev.outcomeOf found)
  | .index base place => do
    let outcome ← ev.outcomeOf (← find scope owner base)
    match (← ev.settledValue scope owner place) with
    | .scalar (.atom (.text name)) => ev.select (.plain name) outcome
    | .scalar (.atom (.number number)) =>
      if number.isInteger then element number.digits outcome else return .missing true
    | .scalar (.described ..) => return .missing false
    | .failed isFinal => return .missing isFinal
    | .choice _ => return .missing false
    | _ => return .missing true
  | expr => do return .node (← Eval.newPart owner { expr, scope })

/-- An expression is a path, so that it stands for all that is said about what it leads to. -/
def isPath : Expr → Bool
  | .reference _ => true
  | .select .. => true
  | .index .. => true
  | _ => false

end Evaluator

end TapeMachine.Settings
