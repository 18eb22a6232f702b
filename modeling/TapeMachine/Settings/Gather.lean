import TapeMachine.Settings.Work

/-!
Gathering what the conjuncts of a node say: its fields, its elements, and what scalars say about it.
Where there are alternatives, one is taken for every decision that was made for the node.
-/

namespace TapeMachine.Settings

/-- The alternatives of an expression, with whether they are preferred. -/
def Expr.alternatives : Expr → List (Bool × Expr)
  | .join .either left right =>
    left.alternatives ++ [match right with
      | .sign .preferred operand => (true, operand)
      | operand => (false, operand)]
  | .sign .preferred operand => [(true, operand)]
  | operand => [(false, operand)]

namespace Evaluator

variable (ev : Evaluator)

/-- Notes that a node has no value, for good or for now. -/
def fail (id : NodeId) (isFinal : Bool) : Eval Unit :=
  Eval.modifyNode id fun node =>
    if isFinal then { node with isBroken := true } else { node with isBlocked := true }

/-- Notes whether something that is said about a node is new or comes back to a node it came
from.
-/
def note (id : NodeId) (conjunct : Conjunct) : Eval Unit :=
  Eval.modifyNode id fun node =>
    if conjunct.isCyclic then { node with hasCycle := true } else { node with hasGround := true }

/-- Takes up a scalar. -/
def absorbScalar (id : NodeId) (conjunct : Conjunct) (scalar : Scalar) : Eval Unit := do
  Eval.modifyNode id fun node => { node with scalar := node.scalar.bind (·.meet? scalar) }
  match scalar with
  | .atom _ => note id conjunct
  | .described .. => return ()

/-- Takes up all that is said about another node. -/
def follow (id : NodeId) (conjunct : Conjunct) (target : NodeId) : Eval Unit := do
  let node ← Eval.node id
  if id = target || node.origin == some target || node.visited.contains target then return
  Eval.modifyNode id fun node => { node with visited := target :: node.visited }
  let levels := (← get).nodes.size
  let isCyclic := conjunct.isCyclic || conjunct.via.contains target
    || (← Eval.isAround target levels node.parent)
  for said in (← Eval.node target).conjuncts do
    ev.absorb id { said with
      tags := said.tags ++ conjunct.tags
      via := target :: conjunct.via ++ said.via
      isCyclic := isCyclic || said.isCyclic
      family := conjunct.family
      under := conjunct.under }

/-- Takes up one of several alternatives if a decision was made, or notes that one is to be made. -/
def decide (id : NodeId) (under : Option Nat) (alternatives : List (Bool × Conjunct))
    : Eval Unit := do
  let node ← Eval.node id
  match node.decisions[node.taken]? with
  | some decision =>
    Eval.modifyNode id fun node => { node with taken := node.taken + 1 }
    match alternatives[decision.choice]? with
    | some (_, alternative) => ev.absorb id { alternative with under := some node.taken }
    | none => fail id true
  | none =>
    if node.undecided.isNone then
      Eval.modifyNode id fun node =>
        { node with undecided := some ⟨alternatives.map (·.1), under⟩ }

/-- A conjunct that says what a node says. -/
def referring (conjunct : Conjunct) (target : NodeId) : Conjunct :=
  { conjunct with expr := .reference "it", scope := [.names [("it", .node target)]] }

/-- Takes up what an expression has turned out to be. -/
def absorbOutcome (id : NodeId) (conjunct : Conjunct) : Outcome → Eval Unit
  | .failed isFinal => fail id isFinal
  | .scalar scalar => absorbScalar id conjunct scalar
  | .list target => ev.follow id conjunct target
  | .record target => ev.follow id conjunct target
  | .choice options =>
    ev.decide id conjunct.under
      (options.map fun (isPreferred, target) => (isPreferred, referring conjunct target))

/-- What the names of a record stand for inside it; values that are bound get nodes. -/
def meaningsOf (id : NodeId) : List Declaration → Eval (List (String × Meaning))
  | [] => return []
  | declaration :: rest => do
    let more ← meaningsOf id rest
    match declaration with
    | .field name inScope byname _ _ =>
      let own := if inScope then
          match name with
          | .plain text => [(text, Meaning.field name)]
          | .hidden text => [(text, Meaning.field name)]
          | .definition text => [(text, Meaning.field name)]
          | .hiddenDefinition text => [(text, Meaning.field name)]
        else []
      return own ++ byname.toList.map (·, Meaning.field name) ++ more
    | .dynamic name byname _ _ => return byname.toList.map (·, Meaning.computed name) ++ more
    | .binding name _ =>
      let node ← Eval.newNode { parent := some id }
      return (name, .node node) :: more
    | _ => return more

/-- Takes up a declaration of a record. -/
def absorbDeclaration (id : NodeId) (inner : Conjunct) (family : Nat)
    (meanings : List (String × Meaning)) : Declaration → Eval Unit
  | .field name _ _ presence value =>
    Eval.addField id name presence { inner with
      expr := value
      tags := inner.tags.filter (·.isInherited)
      isCyclic := false
      family := none
      under := none }
  | .dynamic name _ presence value =>
    Eval.modifyNode id fun node =>
      let conjunct := { inner with expr := value, family := some family }
      { node with pending := node.pending ++ [(conjunct, some (name, presence))] }
  | .pattern byname name value =>
    Eval.modifyNode id fun node =>
      let conjunct : Conjunct :=
        { inner with
          expr := value
          tags := inner.tags.filter (·.isInherited)
          isCyclic := false
          family := none
          under := none }
      { node with rules := node.rules ++ [⟨byname, name, conjunct⟩] }
  | .embedded value =>
    Eval.modifyNode id fun node =>
      let conjunct := { inner with expr := value, family := some family }
      { node with pending := node.pending ++ [(conjunct, none)] }
  | .binding name value =>
    match meanings.lookup name with
    | some (.node node) =>
      Eval.addConjunct node { inner with
        expr := value, tags := [], isCyclic := false, family := none, under := none }
    | _ => return ()
  | .openEnd => return ()

/-- Takes up a record. -/
def absorbRecord (id : NodeId) (conjunct : Conjunct) (declarations : List Declaration)
    : Eval Unit := do
  note id conjunct
  let meanings ← meaningsOf id declarations
  let inner := { conjunct with scope := .record id meanings :: conjunct.scope }
  let family := conjunct.family.getD (← Eval.node id).literals.length
  let names := declarations.filterMap fun
    | .field name .. => some name
    | _ => none
  let rules := declarations.filterMap fun
    | .pattern byname name value => some ⟨byname, name, { inner with expr := value }⟩
    | _ => none
  let isOpen := declarations.any fun
    | .openEnd => true
    | _ => false
  let isBare := !declarations.any fun
    | .embedded _ => true
    | _ => false
  let literal : Literal := { names, rules, isOpen, isBare, tags := conjunct.tags, family }
  Eval.modifyNode id fun node => { node with literals := node.literals ++ [literal] }
  for declaration in declarations do
    absorbDeclaration id inner family meanings declaration

/-- The scopes that clauses pick out. -/
def scopesOf (id : NodeId) (scope : List Frame) :
    List Clause → Eval (Except Bool (List (List Frame)))
  | [] => return .ok [scope]
  | .condition value :: rest => do
    match (← ev.settledValue scope id value) with
    | .scalar (.atom (.bool true)) => scopesOf id scope rest
    | .scalar (.atom (.bool false)) => return .ok []
    | .scalar (.described kinds _) => return .error !(kinds.contains .bool)
    | .choice _ => return .error false
    | .failed isFinal => return .error isFinal
    | _ => return .error true
  | .binding name value :: rest => do
    let node ← Eval.newPart id { expr := value, scope }
    scopesOf id (.names [(name, .node node)] :: scope) rest
  | .each key element source :: rest => do
    let named (place : Atom) (node : NodeId) : Frame :=
      .names ((element, .node node) :: key.toList.map (·, .atom place))
    let gatherAll (frames : List Frame) : Eval (Except Bool (List (List Frame))) :=
      frames.foldlM (fun found frame => do
        match found with
        | .error isFinal => return .error isFinal
        | .ok before => return (← scopesOf id (frame :: scope) rest).map (before ++ ·)) (.ok [])
    match (← ev.settledValue scope id source) with
    | .list list =>
      let elements := (← Eval.node list).elements
      gatherAll (elements.zipIdx.map fun (node, place) => named (.int place) node)
    | .record record =>
      gatherAll ((← Eval.node record).children.filterMap fun
        | (.plain name, .present, node) => some (named (.text name) node)
        | _ => none)
    | .scalar (.described kinds _) =>
      return .error !(kinds.contains .list || kinds.contains .record)
    | .choice _ => return .error false
    | .failed isFinal => return .error isFinal
    | _ => return .error true

/-- Takes up what a call of a function that describes a value by others says. -/
def absorbCall (id : NodeId) (conjunct : Conjunct) (function : Builtin) (arguments : List Expr)
    : Eval Unit := do
  match function, arguments with
  | .close, [argument] =>
    let group ← Eval.newNode {}
    ev.absorb id { conjunct with expr := argument, tags := ⟨group, false⟩ :: conjunct.tags }
  | .allOf, [argument] =>
    match (← ev.settledValue conjunct.scope id argument) with
    | .list list =>
      for element in (← Eval.node list).elements do
        ev.absorb id (referring conjunct element)
    | .failed isFinal => fail id isFinal
    | .scalar (.described ..) => fail id false
    | _ => fail id true
  | .oneOf, [argument] =>
    match (← ev.settledValue conjunct.scope id argument) with
    | .list list =>
      let elements := (← Eval.node list).elements
      if elements.isEmpty then fail id true
      else
        ev.decide id conjunct.under
          (elements.map fun element => (false, referring conjunct element))
    | .failed isFinal => fail id isFinal
    | .scalar (.described ..) => fail id false
    | _ => fail id true
  | .close, _ => fail id true
  | .allOf, _ => fail id true
  | .oneOf, _ => fail id true
  | _, _ => ev.absorbOutcome id conjunct (← ev.apply conjunct.scope id function arguments)

/-- Takes up a conjunct. -/
def absorbConjunct (id : NodeId) (conjunct : Conjunct) : Eval Unit := do
  let scope := conjunct.scope
  match conjunct.expr with
  | .record declarations => absorbRecord id conjunct declarations
  | .list items rest =>
    note id conjunct
    Eval.modifyNode id fun node => { node with lists := node.lists ++ [⟨items, rest, conjunct⟩] }
  | .join .both left right =>
    ev.absorb id { conjunct with expr := left }
    ev.absorb id { conjunct with expr := right }
  | .join .either left right =>
    ev.decide id conjunct.under ((Expr.join .either left right).alternatives.map
      fun (isPreferred, expr) => (isPreferred, { conjunct with expr }))
  | .aliased name value =>
    ev.absorb id { conjunct with expr := value, scope := .names [(name, .node id)] :: scope }
  | .comprehension clauses body =>
    match (← ev.scopesOf id scope clauses) with
    | .ok scopes => for scope in scopes do ev.absorb id { conjunct with expr := body, scope }
    | .error isFinal => fail id isFinal
  | .call function arguments =>
    match (← ev.find scope id function) with
    | .function function => ev.absorbCall id conjunct function arguments
    | _ => ev.absorbOutcome id conjunct (← ev.value scope id conjunct.expr)
  | expr =>
    if isPath expr then
      match (← ev.find scope id expr) with
      | .node target => ev.follow id conjunct target
      | found => ev.absorbOutcome id conjunct (← ev.outcomeOf found)
    else ev.absorbOutcome id conjunct (← ev.value scope id expr)

/-- Takes up what is embedded in a record, or a field whose name is worked out. -/
def absorbPending (id : NodeId) (conjunct : Conjunct) : Option (Expr × Presence) → Eval Unit
  | none => ev.absorb id conjunct
  | some (name, presence) => do
    match (← ev.settledValue conjunct.scope id name) with
    | .scalar (.atom (.text text)) =>
      let literal : Literal :=
        { names := [.plain text], tags := conjunct.tags, family := conjunct.family.getD 0 }
      Eval.modifyNode id fun node => { node with literals := node.literals ++ [literal] }
      Eval.addField id (.plain text) presence { conjunct with
        tags := conjunct.tags.filter (·.isInherited)
        isCyclic := false
        family := none
        under := none }
    | .scalar (.described kinds _) => fail id !(kinds.contains .text)
    | .choice _ => fail id false
    | .failed isFinal => fail id isFinal
    | _ => fail id true

/-- What is pending can wait for what else is embedded. -/
def canWait : Conjunct × Option (Expr × Presence) → Bool
  | (_, some _) => true
  | (conjunct, none) => match conjunct.expr with
    | .comprehension .. => true
    | _ => false

/-- Takes up all that is pending. The first argument bounds the number of steps. -/
def absorbAllPending (id : NodeId) : Nat → Eval Unit
  | 0 => fail id true
  | fuel + 1 => do
    let pending := (← Eval.node id).pending
    let urgent := pending.filter (!canWait ·)
    match if urgent.isEmpty then pending else urgent ++ pending.filter canWait with
    | [] => return ()
    | (conjunct, name) :: rest =>
      Eval.modifyNode id fun node => { node with pending := rest }
      ev.absorbPending id conjunct name
      absorbAllPending id fuel

/-- Applies the rules of a node to its fields. -/
def applyRules (id : NodeId) : Eval Unit := do
  let node ← Eval.node id
  for (name, _, child) in node.children do
    match name with
    | .plain text =>
      for rule in node.rules do
        if (← ev.applies id rule text) then
          let bindings := rule.byname.toList.map (·, Binding.atom (.text text))
          Eval.addConjunct child { rule.conjunct with
            scope := .names bindings :: rule.conjunct.scope }
    | _ => continue

/-- What is said about the elements of a list as it was written. -/
def elementsOf (id : NodeId) (list : ListLiteral) : Eval (Except Bool (List Conjunct)) :=
  let plain : Conjunct :=
    { list.conjunct with
      tags := list.conjunct.tags.filter (·.isInherited)
      isCyclic := false
      family := none
      under := none }
  list.items.foldlM (fun found item => do
    match found, item with
    | .error isFinal, _ => return .error isFinal
    | .ok before, .comprehension clauses body =>
      return (← ev.scopesOf id plain.scope clauses).map fun scopes =>
        before ++ scopes.map fun scope => { plain with expr := body, scope }
    | .ok before, expr => return .ok (before ++ [{ plain with expr }])) (.ok [])

/-- Puts the elements of all lists together that a node was said to be. -/
def joinLists (id : NodeId) : Eval Unit := do
  let node ← Eval.node id
  if node.lists.isEmpty then return
  let mut written : List (List Conjunct × Option Conjunct) := []
  for list in node.lists do
    match (← ev.elementsOf id list) with
    | .error isFinal => fail id isFinal
    | .ok elements =>
      let rest := list.rest.map fun expr => { list.conjunct with
        expr, tags := list.conjunct.tags.filter (·.isInherited), isCyclic := false, under := none }
      written := written ++ [(elements, rest)]
  let size := written.foldl (fun size (elements, _) => max size elements.length) 0
  if written.any fun (elements, rest) => rest.isNone && elements.length < size then fail id true
  let mut nodes : List NodeId := []
  for place in List.range size do
    let conjuncts := written.filterMap fun (elements, rest) => elements[place]? <|> rest
    let element ← Eval.newNode { parent := some id, conjuncts }
    nodes := nodes ++ [element]
  Eval.modifyNode id fun node =>
    { node with elements := nodes, isOpenList := written.all (·.2.isSome) }

/-- Gathers what the conjuncts of a node say. -/
def gatherNode (id : NodeId) : Eval Unit := do
  let node ← Eval.node id
  if node.stage ≠ .fresh then return
  Eval.modifyNode id fun node => { node with stage := .gathering }
  for conjunct in node.conjuncts do
    ev.absorb id conjunct
  ev.absorbAllPending id 1000
  ev.applyRules id
  ev.joinLists id
  Eval.modifyNode id fun node =>
    { node with
      stage := .gathered
      isBroken := node.isBroken || (node.hasCycle && !node.hasGround) }

end Evaluator

end TapeMachine.Settings
