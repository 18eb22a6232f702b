import TapeMachine.Settings.Expr
import TapeMachine.Settings.Predeclared
import TapeMachine.Settings.Value

/-!
The places that values have while they are worked out. Every field, every element and every value
with parts is a node. What is said about a node is a list of conjuncts, which may come from many
declarations; its value is what all of them describe together.
-/

namespace TapeMachine.Settings

/-- The number of a node. -/
abbrev NodeId := Nat

/-- What a name stands for in the scope of a record. -/
inductive Meaning where
  | field (name : FieldName)
  /-- A field whose name is worked out. -/
  | computed (name : Expr)
  | node (id : NodeId)

/-- What a name was bound to outside a record. -/
inductive Binding where
  | node (id : NodeId)
  | atom (value : Atom)
  /-- A package that was imported. -/
  | package (path : String)

/-- One level of the scope of an expression. -/
inductive Frame where
  /-- The record that a node has become, with the names that its text gives. -/
  | record (node : NodeId) (meanings : List (String × Meaning))
  | names (bindings : List (String × Binding))

/-- A mark of what belongs to a closed group of declarations. Such a group admits the fields that it
declares and no others. Marks of definitions are inherited by the parts, others are not.
-/
structure Tag where
  group : NodeId
  isInherited : Bool
  deriving DecidableEq, Inhabited

/-- One of the things that are said about a node. -/
structure Conjunct where
  expr : Expr
  /-- The levels around the expression, the innermost first. -/
  scope : List Frame := []
  tags : List Tag := []
  /-- The nodes that were referred to on the way here. -/
  via : List NodeId := []
  /-- One of these nodes is met again. -/
  isCyclic : Bool := false
  /-- The literal that this is embedded in. -/
  family : Option Nat := none
  /-- The decision that this came from. -/
  under : Option Nat := none
  deriving Inhabited

/-- A decision for one of several alternatives. -/
structure Decision where
  choice : Nat
  isMarked : Bool
  /-- Some of the alternatives are marked as preferred. -/
  hasMarks : Bool
  under : Option Nat
  deriving DecidableEq, Inhabited

/-- Alternatives between which no decision was made. -/
structure Alternatives where
  marks : List Bool
  under : Option Nat
  deriving DecidableEq, Inhabited

/-- What holds for all fields whose names meet a description. -/
structure FieldRule where
  byname : Option String
  name : Expr
  conjunct : Conjunct
  deriving Inhabited

/-- A record as it was written, with what matters for whether a field may be added to it. -/
structure Literal where
  names : List FieldName := []
  rules : List FieldRule := []
  isOpen : Bool := false
  /-- Nothing is embedded in it, so it is a record and nothing else. -/
  isBare : Bool := false
  tags : List Tag := []
  /-- Literals that are embedded in each other are of one family. -/
  family : Nat
  deriving Inhabited

/-- A list as it was written. -/
structure ListLiteral where
  items : List Expr
  rest : Option Expr
  conjunct : Conjunct
  deriving Inhabited

/-- What a node has turned out to be, as far as its outermost layer goes. -/
inductive Outcome where
  /-- There is no value; if that is not final, it hangs on what is not known yet. -/
  | failed (isFinal : Bool)
  | scalar (value : Scalar)
  | list (node : NodeId)
  | record (node : NodeId)
  /-- Nodes one of which is meant, with whether they are preferred. -/
  | choice (options : List (Bool × NodeId))
  deriving Inhabited

/-- How far a node is worked out. -/
inductive Stage where
  | fresh
  | gathering
  | gathered
  deriving DecidableEq, Inhabited

/-- A node. -/
structure Node where
  parent : Option NodeId := none
  /-- The node of which this is one alternative. -/
  origin : Option NodeId := none
  conjuncts : List Conjunct := []
  decisions : List Decision := []
  stage : Stage := .fresh
  /-- What scalars say together; nothing if they exclude each other. -/
  scalar : Option Scalar := some .anything
  literals : List Literal := []
  lists : List ListLiteral := []
  children : List (FieldName × Presence × NodeId) := []
  elements : List NodeId := []
  isOpenList : Bool := false
  rules : List FieldRule := []
  /-- What is still to be gathered: embedded values and fields whose names are worked out. -/
  pending : List (Conjunct × Option (Expr × Presence)) := []
  /-- The nodes that were referred to. -/
  visited : List NodeId := []
  /-- The number of decisions that were used. -/
  taken : Nat := 0
  undecided : Option Alternatives := none
  isBroken : Bool := false
  isBlocked : Bool := false
  hasCycle : Bool := false
  hasGround : Bool := false
  isBusy : Bool := false
  outcome : Option Outcome := none
  whole : Option Value := none
  deriving Inhabited

/-- The number of plain fields that are there. -/
def Node.countFields (node : Node) : Nat :=
  let isCounted : FieldName × Presence × NodeId → Bool
    | (.plain _, .present, _) => true
    | _ => false
  (node.children.filter isCounted).length

/-- All nodes. -/
structure Store where
  nodes : Array Node := #[]
  deriving Inhabited

/-- Working with nodes. -/
abbrev Eval (α : Type) := StateM Store α

namespace Eval

/-- Adds a node. -/
def newNode (node : Node) : Eval NodeId := do
  let store ← get
  set { store with nodes := store.nodes.push node }
  return store.nodes.size

/-- A node. -/
def node (id : NodeId) : Eval Node := do
  return ((← get).nodes[id]?).getD default

/-- Changes a node. -/
def modifyNode (id : NodeId) (change : Node → Node) : Eval Unit :=
  modify fun store => { store with nodes := store.nodes.modify id change }

/-- A node about which one thing is said. -/
def newPart (parent : NodeId) (conjunct : Conjunct) : Eval NodeId :=
  newNode { parent := some parent, conjuncts := [conjunct] }

/-- The stronger of two statements on whether a field is there. -/
def strongest : Presence → Presence → Presence
  | .present, _ => .present
  | _, .present => .present
  | .required, _ => .required
  | _, .required => .required
  | _, _ => .optional

/-- Says one more thing about a node, so that it has to be worked out anew. -/
def addConjunct (id : NodeId) (conjunct : Conjunct) : Eval Unit :=
  modifyNode id fun node =>
    { parent := node.parent
      origin := node.origin
      conjuncts := node.conjuncts ++ [conjunct]
      decisions := node.decisions }

/-- Says something about a field of a node; definitions are closed. -/
def addField (id : NodeId) (name : FieldName) (presence : Presence) (conjunct : Conjunct)
    : Eval Unit := do
  let mark (child : NodeId) : Conjunct :=
    if name.isDefinition then { conjunct with tags := ⟨child, true⟩ :: conjunct.tags } else conjunct
  match (← node id).children.find? (·.1 == name) with
  | some (_, old, child) =>
    modifyNode id fun node =>
      { node with children := node.children.map fun (other, presence', child) =>
          if other == name then (other, strongest old presence, child)
          else (other, presence', child) }
    addConjunct child (mark child)
  | none =>
    let child ← newNode { parent := some id }
    modifyNode id fun node => { node with children := node.children ++ [(name, presence, child)] }
    addConjunct child (mark child)

/-- The node or the one of which it is an alternative is among others. -/
def isAmong (id : NodeId) (others : List NodeId) : Eval Bool := do
  return others.contains id || (← node id).origin.any others.contains

/-- A node lies around another. The first argument bounds the number of levels. -/
def isAround (outer : NodeId) : Nat → Option NodeId → Eval Bool
  | 0, _ => return false
  | _ + 1, none => return false
  | fuel + 1, some id => do
    let inner ← node id
    if id = outer || inner.origin == some outer then return true
    isAround outer fuel inner.parent

end Eval

/-- How nodes and expressions are worked out. The parts of this depend on each other, so each is
given the others.
-/
structure Evaluator where
  /-- The value of an expression in a scope, asked for by a node. -/
  value : List Frame → NodeId → Expr → Eval Outcome
  /-- Gathers what the conjuncts of a node say. -/
  gather : NodeId → Eval Unit
  /-- What a node has turned out to be. -/
  outcome : NodeId → Eval Outcome
  /-- The value of a node with all its parts. -/
  whole : NodeId → Eval Value
  /-- Takes up a conjunct of a node. -/
  absorb : NodeId → Conjunct → Eval Unit
  /-- The nodes that remain after all decisions. -/
  leaves : NodeId → Eval (List NodeId)

/-- Works nothing out. -/
def Evaluator.exhausted : Evaluator where
  value _ _ _ := return .failed true
  gather _ := return ()
  outcome _ := return .failed true
  whole _ := return .never
  absorb id _ := Eval.modifyNode id fun node => { node with isBroken := true }
  leaves _ := return []

end TapeMachine.Settings
