import TapeMachine.Settings.Gather
import TapeMachine.Settings.Names

/-!
The values that texts describe. All that is said about a value is gathered; where there are
alternatives, those that cannot be are dropped.
-/

namespace TapeMachine.Settings

/-- Whether an alternative is preferred, by all decisions that led to it. -/
inductive Preference where
  | preferred
  | indifferent
  | refused
  deriving DecidableEq, Inhabited

namespace Preference

/-- What two independent decisions say together. -/
def both : Preference → Preference → Preference
  | .refused, _ => .refused
  | _, .refused => .refused
  | .preferred, _ => .preferred
  | _, .preferred => .preferred
  | _, _ => .indifferent

/-- What the decisions that came from one of them say. The first argument bounds how deep they
lie.
-/
def ofDecisions (decisions : List Decision) : Nat → Option Nat → Preference
  | 0, _ => .indifferent
  | fuel + 1, under =>
    let own := decisions.zipIdx.filter fun (decision, _) => decision.under == under
    own.foldl (fun preference (decision, place) =>
      let nested := ofDecisions decisions fuel (some place)
      let single : Preference :=
        if !decision.hasMarks then nested
        else if !decision.isMarked then .refused
        else if nested = .refused then .refused else .preferred
      both preference single) .indifferent

end Preference

namespace Evaluator

variable (ev : Evaluator)

/-- The nodes that remain after all decisions. -/
def allLeaves (id : NodeId) : Eval (List NodeId) := do
  ev.gather id
  let node ← Eval.node id
  if node.isBroken then return []
  match node.undecided with
  | none => return [id]
  | some alternatives =>
    let hasMarks := alternatives.marks.contains true
    let mut found : List NodeId := []
    for (isMarked, choice) in alternatives.marks.zipIdx do
      let decision : Decision := ⟨choice, isMarked, hasMarks, alternatives.under⟩
      let branch ← Eval.newNode
        { parent := node.parent
          origin := some (node.origin.getD id)
          conjuncts := node.conjuncts
          decisions := node.decisions ++ [decision] }
      found := found ++ (← ev.leaves branch)
    return found

/-- The choice between the alternatives that can be, each of them once. -/
def chooseLeaf (id : NodeId) : Eval Outcome := do
  let mut kept : List (Bool × NodeId × Value) := []
  for leaf in (← ev.leaves id) do
    let value ← ev.whole leaf
    if value.isPossible then
      let decisions := (← Eval.node leaf).decisions
      let isPreferred :=
        Preference.ofDecisions decisions (decisions.length + 1) none == .preferred
      if kept.any fun (_, _, other) => other.isSame value then
        kept := kept.map fun (wasPreferred, node, other) =>
          (wasPreferred || (isPreferred && other.isSame value), node, other)
      else kept := kept ++ [(isPreferred, leaf, value)]
  match kept with
  | [] => return .failed true
  | [(_, leaf, _)] => ev.outcome leaf
  | _ => return .choice (kept.map fun (isPreferred, leaf, _) => (isPreferred, leaf))

/-- What a node has turned out to be when all is gathered and decided. A record that says nothing
but a scalar or a list is that.
-/
def decidedOutcome (id : NodeId) (node : Node) : Outcome :=
  let hasFields := node.children.any (fun (name, _) => name.plain?.isSome)
    || node.literals.any (·.isBare)
  match node.scalar with
  | none => .failed true
  | some scalar =>
    if !node.lists.isEmpty then
      let isFit := scalar.admits .list && scalar.admitsCount node.elements.length node.isOpenList
      if hasFields || !isFit then .failed true
      else if node.isBlocked then .failed false else .list id
    else if !node.literals.isEmpty && scalar.admits .record then
      if scalar.admitsCount node.countFields false then .record id else .failed true
    else if hasFields then .failed true
    else if node.isBlocked then .failed false
    else .scalar scalar

/-- What a node has turned out to be. A node that is asked for while it is worked out is not known
yet.
-/
def workOut (id : NodeId) : Eval Outcome := do
  let node ← Eval.node id
  match node.outcome with
  | some outcome => return outcome
  | none =>
    if node.isBusy then return .failed false
    Eval.modifyNode id fun node => { node with isBusy := true }
    ev.gather id
    let node ← Eval.node id
    let outcome ← if node.isBroken then pure (.failed true)
      else if node.undecided.isSome then ev.chooseLeaf id
      else pure (decidedOutcome id node)
    Eval.modifyNode id fun node => { node with outcome := some outcome, isBusy := false }
    return outcome

/-- The value of a record with all its fields. A field that is not admitted, or that cannot be,
spoils it.
-/
def wholeRecord (id : NodeId) : Eval Value := do
  let node ← Eval.node id
  let mut fields : List (FieldName × Value) := []
  for (name, presence, child) in node.children do
    if presence = .present then
      if !(← ev.admits id name) then return .never
      let value ← ev.whole child
      if !value.isPossible then return .never
      fields := fields ++ [(name, value)]
  return .record fields !node.isBlocked

/-- The value of a node with all its parts. -/
def workOutWhole (id : NodeId) : Eval Value := do
  match (← Eval.node id).whole with
  | some value => return value
  | none =>
    let value ← match (← ev.outcome id) with
      | .failed isFinal => pure (if isFinal then Value.never else .unknown)
      | .scalar scalar => pure (.scalar scalar)
      | .record record => ev.wholeRecord record
      | .list list =>
        let node ← Eval.node list
        let items ← node.elements.mapM ev.whole
        pure (if items.all (·.isPossible) then .list items node.isOpenList else .never)
      | .choice options =>
        let values ← options.mapM fun (isPreferred, node) => do
          return (isPreferred, ← ev.whole node)
        pure (.choice (values.map (·.2)) ((values.filter (·.1)).map (·.2)))
    Eval.modifyNode id fun node => { node with whole := some value }
    return value

/-- Works values out; the number bounds the depth of the recursion. -/
def within : Nat → Evaluator
  | 0 => exhausted
  | fuel + 1 =>
    let ev := within fuel
    { value := evaluate ev
      gather := gatherNode ev
      outcome := workOut ev
      whole := workOutWhole ev
      absorb := absorbConjunct ev
      leaves := allLeaves ev }

end Evaluator

/-- A text that was read and in which all names stand for something. -/
structure Description where
  source : Source
  /-- The length of the text. -/
  size : Nat
  deriving Inhabited

namespace Description

/-- The description that a text is. -/
def ofText? (text : String) : Option Description := do
  let source ← Source.parse text
  if source.isSound then some { source, size := text.length } else none

/-- What a description says about a value. -/
def conjunct (description : Description) : Conjunct :=
  let imports := description.source.imports.map fun (name, path) => (name, Binding.package path)
  { expr := .record description.source.declarations, scope := [.names imports] }

/-- The depth to which values are worked out. -/
def depthFor (size : Nat) : Nat := min 3000 (200 + 20 * size)

/-- The value that is described by several descriptions together. -/
def value (descriptions : List Description) : Value :=
  let size := descriptions.foldl (fun size description => size + description.size) 0
  let work : Eval Value := do
    let root ← Eval.newNode { conjuncts := descriptions.map conjunct }
    (Evaluator.within (depthFor size)).whole root
  (work.run {}).1

/-- The schema that a text describes: a record that is closed to fields it does not name. It is read
between brackets, so its last line must not hide a bracket that follows.
-/
def schemaOfText? (text : String) : Option Description := do
  let description ← ofText? ("close(\x7b" ++ text ++ "\x7d)")
  if (value [description]).isKnown then some description else none

end Description

end TapeMachine.Settings
