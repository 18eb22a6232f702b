import TapeMachine.Shell.Expr
import TapeMachine.Text.Nearest
import TapeMachine.Text.Quoted

/-!
What the names in a statement stand for, before anything is done. A function and a comprehension
have names of their own; every other name is one of the session, or one that is always there.
-/

namespace TapeMachine.Shell

/-- A function or a comprehension, by the names that belong to it. -/
structure Block where
  /-- The block around it. -/
  parent : Nat := 0
  isFunction : Bool := false
  names : List String := []
  /-- The blocks within it, the first one last. -/
  children : List Nat := []
  /-- The names that are used in it, the first one last, each with its place and the block where it
  stands.
  -/
  uses : List (Place × String × Nat) := []
  deriving Inhabited

/-- The state of looking through statements. -/
structure Survey where
  /-- The blocks; the first is what is around all others. -/
  blocks : Array Block := #[{}]
  current : Nat := 0
  loops : Nat := 0
  choices : Nat := 0
  /-- The names that are assigned outside all blocks, with the places where this is first done. -/
  globals : List (String × Place) := []
  /-- What is wrong, the first fault last. -/
  faults : List (Place × String) := []
  deriving Inhabited

/-- Steps that look through statements. -/
abbrev Surveying := StateM Survey

namespace Survey

/-- Notes a fault. -/
def fault (place : Place) (message : String) : Surveying Unit :=
  modify fun survey => { survey with faults := (place, message) :: survey.faults }

/-- The block that keeps what is used in a block: itself, or what is around a comprehension. The
first argument bounds how deep blocks are nested.
-/
def container (blocks : Array Block) : Nat → Nat → Nat
  | 0, block => block
  | fuel + 1, block =>
    match blocks[block]? with
    | some found =>
      if found.isFunction || block = 0 then block else container blocks fuel found.parent
    | none => block

/-- The block that keeps what is used at this point. -/
def currentContainer : Surveying Nat := do
  let survey ← get
  return container survey.blocks survey.blocks.size survey.current

/-- What is looked through is part of a function. -/
def isInFunction : Surveying Bool := do
  let block ← currentContainer
  return ((← get).blocks[block]?.map (·.isFunction)).getD false

/-- Notes that a name is used. -/
def useName (place : Place) (name : String) : Surveying Unit := do
  let keeper ← currentContainer
  modify fun survey =>
    { survey with
      blocks := survey.blocks.modify keeper fun block =>
        { block with uses := (place, name, survey.current) :: block.uses } }

/-- Notes that a name is assigned; says whether it was before. -/
def bindName (place : Place) (name : String) : Surveying Bool := do
  let survey ← get
  if survey.current = 0 then
    match survey.globals.lookup name with
    | some first =>
      fault place s!"cannot reassign global {name} declared at {first.render}"
      return true
    | none =>
      set { survey with globals := survey.globals ++ [(name, place)] }
      return false
  else
    let known := ((survey.blocks[survey.current]?).map (·.names.contains name)).getD false
    if !known then
      set { survey with
        blocks := survey.blocks.modify survey.current fun block =>
          { block with names := block.names ++ [name] } }
    useName place name
    return known

/-- Looks through something within a new block. The loops around a function are not its own. -/
def within (isFunction : Bool) (inside : Surveying Unit) : Surveying Unit := do
  let survey ← get
  let block := survey.blocks.size
  let around := survey.blocks.modify survey.current fun parent =>
    { parent with children := block :: parent.children }
  set { survey with
    blocks := around.push { parent := survey.current, isFunction }
    current := block
    loops := if isFunction then 0 else survey.loops }
  inside
  modify fun inner => { inner with current := survey.current, loops := survey.loops }

/-- What was seen of the arguments of a call so far. -/
structure ArgumentsSeen where
  hasSpread : Bool := false
  hasNamedSpread : Bool := false
  names : List String := []
  positional : Nat := 0
  named : Nat := 0
  deriving Inhabited

/-- Notes an argument and says what was seen then. -/
def noteArgument (seen : ArgumentsSeen) (start : Place) (kind : ArgumentKind)
    : Surveying ArgumentsSeen := do
  match kind with
  | .spreadNamed place =>
    if seen.hasNamedSpread then fault place "multiple **kwargs not allowed"
    return { seen with hasNamedSpread := true }
  | .spread place =>
    if seen.hasNamedSpread then fault place "*args may not follow **kwargs"
    else if seen.hasSpread then fault place "multiple *args not allowed"
    return { seen with hasSpread := true }
  | .named place name =>
    if seen.hasNamedSpread then fault place "keyword argument may not follow **kwargs"
    else if seen.hasSpread then fault place "keyword argument may not follow *args"
    if seen.names.contains name then
      fault place ("keyword argument " ++ Text.quoted name ++ " is repeated")
    return { seen with names := name :: seen.names, named := seen.named + 1 }
  | .plain =>
    if seen.hasSpread then fault start "positional argument may not follow *args"
    else if seen.hasNamedSpread then fault start "positional argument may not follow **kwargs"
    else if !seen.names.isEmpty then fault start "positional argument may not follow named"
    return { seen with positional := seen.positional + 1 }

/-- How many arguments of each kind a call may have. -/
def mostArguments : Nat := 255

/-- Notes that a call has too many arguments of a kind. -/
def checkCount (start : Place) (count : Nat) (kind : String) : Surveying Unit := do
  if mostArguments < count then
    fault start s!"{count} {kind} arguments in call, limit is {mostArguments}"

/-- What was seen of the parameters of a function so far. -/
structure ParametersSeen where
  hasOptional : Bool := false
  /-- The mark behind which parameters go by name, with the name of the rest if it has one. -/
  rest : Option (Place × Option (Place × String)) := none
  namedRest : Option (Place × String) := none
  byName : Nat := 0
  deriving Inhabited

/-- Notes that a name is a parameter. -/
def bindParameter (place : Place) (name : String) (blamed : Place) : Surveying Unit := do
  if ← bindName place name then fault blamed ("duplicate parameter: " ++ name)

/-- Notes a parameter and says what was seen then. -/
def noteParameter (seen : ParametersSeen) (kind : ParameterKind) : Surveying ParametersSeen := do
  let counted := { seen with byName := seen.byName + if seen.rest.isSome then 1 else 0 }
  let noteRest (mark : Place) (name : Option (Place × String)) : Surveying ParametersSeen := do
    if let some (_, last) := seen.namedRest then
      fault mark ("* parameter may not follow **" ++ last)
      return seen
    else if seen.rest.isSome then
      fault mark "multiple * parameters not allowed"
      return seen
    else return { seen with rest := some (mark, name) }
  match kind with
  | .required place name =>
    if let some (_, last) := seen.namedRest then
      fault place ("required parameter may not follow **" ++ last)
    else if seen.rest.isNone && seen.hasOptional then
      fault place "required parameter may not follow optional"
    bindParameter place name place
    return counted
  | .optional place name sign =>
    if let some (_, last) := seen.namedRest then
      fault sign ("optional parameter may not follow **" ++ last)
    bindParameter place name sign
    return { counted with hasOptional := true }
  | .barrier mark => noteRest mark none
  | .rest mark place name => noteRest mark (some (place, name))
  | .namedRest mark place name =>
    if seen.namedRest.isSome then fault mark "multiple ** parameters not allowed"
    return { seen with namedRest := some (place, name) }

/-- Notes all parameters of a function. Those that take what is left come last. -/
def noteParameters (kinds : List ParameterKind) : Surveying Unit := do
  let seen ← kinds.foldlM noteParameter {}
  match seen.rest with
  | some (_, some (place, name)) => bindParameter place name place
  | some (mark, none) =>
    if seen.byName = 0 then fault mark "bare * must be followed by keyword-only parameters"
  | none => pure ()
  if let some (place, name) := seen.namedRest then bindParameter place name place

mutual

/-- Looks through an expression. -/
def expression : Expr → Surveying Unit
  | .name place name => useName place name
  | .list _ items => expressions items
  | .tuple _ items => expressions items
  | .paren _ inner => expression inner
  | .dict _ dictEntries => entries dictEntries
  | .comprehension _ _ key _ value clauses =>
    match clauses with
    | (_, targets, source) :: others => do
      expression source
      within false do
        target false targets
        furtherClauses others
        expression key
        expression value
    | [] => pure ()
  | .unary _ _ operand => expression operand
  | .binary _ _ left right => do
    expression left
    expression right
  | .conditional condition yes no => do
    expression condition
    expression yes
    expression no
  | .index _ basis key => do
    expression basis
    expression key
  | .slice _ basis low high step => do
    expression basis
    expression low
    expression high
    expression step
  | .member _ basis _ => expression basis
  | .call _ function callArguments => do
    expression function
    arguments function.start {} callArguments
  | .lambda _ parameters body => do
    defaults parameters
    within true do
      noteParameters (parameters.map (·.1))
      expression body
  | _ => pure ()

/-- Looks through several expressions. -/
def expressions : List Expr → Surveying Unit
  | [] => pure ()
  | expr :: rest => do
    expression expr
    expressions rest

/-- Looks through the entries of a dictionary. -/
def entries : List (Place × Expr × Expr) → Surveying Unit
  | [] => pure ()
  | (_, key, value) :: rest => do
    expression key
    expression value
    entries rest

/-- Looks through the clauses of a comprehension behind the first. -/
def furtherClauses : List (ClauseKind × Expr × Expr) → Surveying Unit
  | [] => pure ()
  | (kind, targets, source) :: rest => do
    match kind with
    | .only => pure ()
    | .each _ => target false targets
    expression source
    furtherClauses rest

/-- Looks through the arguments of a call that begins at a place. -/
def arguments (start : Place) (seen : ArgumentsSeen)
    : List (ArgumentKind × Expr) → Surveying Unit
  | [] => do
    checkCount start seen.positional "positional"
    checkCount start seen.named "keyword"
  | (kind, value) :: rest => do
    let seen ← noteArgument seen value.start kind
    expression value
    arguments start seen rest

/-- Looks through the defaults of parameters. -/
def defaults : List (ParameterKind × Expr) → Surveying Unit
  | [] => pure ()
  | (_, value) :: rest => do
    expression value
    defaults rest

/-- Looks through what is assigned to. -/
def target (isUpdate : Bool) : Expr → Surveying Unit
  | .name place name => do
    let _ ← bindName place name
  | .index _ basis key => do
    expression basis
    expression key
  | .member _ basis _ => expression basis
  | .tuple place items => do
    if isUpdate then
      fault (Expr.tuple place items).start "can't use tuple expression in augmented assignment"
    targets isUpdate items
  | .list place items => do
    if isUpdate then fault place "can't use list expression in augmented assignment"
    targets isUpdate items
  | .paren _ inner => target isUpdate inner
  | other => fault other.start ("can't assign to " ++ other.kindName)

/-- Looks through several things that are assigned to. -/
def targets (isUpdate : Bool) : List Expr → Surveying Unit
  | [] => pure ()
  | expr :: rest => do
    target isUpdate expr
    targets isUpdate rest

end

/-- Looks through names that are loaded. -/
def loadedNames : List ((Place × String) × (Place × String)) → Surveying Unit
  | [] => pure ()
  | ((place, there), (herePlace, here)) :: rest => do
    if there.isEmpty then fault place "load: empty identifier"
    else if there.startsWith "_" then
      fault place ("load: names with leading underscores are not exported: " ++ there)
    let _ ← bindName herePlace here
    loadedNames rest

/-- Counts loops around something. -/
def inLoop (inside : Surveying Unit) : Surveying Unit := do
  modify fun survey => { survey with loops := survey.loops + 1 }
  inside
  modify fun survey => { survey with loops := survey.loops - 1 }

/-- Counts choices around something. -/
def inChoice (inside : Surveying Unit) : Surveying Unit := do
  modify fun survey => { survey with choices := survey.choices + 1 }
  inside
  modify fun survey => { survey with choices := survey.choices - 1 }

mutual

/-- Looks through a statement. -/
def statement : Stmt → Surveying Unit
  | .value expr => expression expr
  | .assign _ assigned source => do
    expression source
    target false assigned
  | .update _ _ assigned source => do
    expression source
    target true assigned
  | .branch place kind => do
    if (← get).loops = 0 && kind != .pass then fault place (kind.word ++ " not in a loop")
  | .choose _ condition yes no => do
    expression condition
    inChoice do
      statements yes
      statements no
  | .each _ assigned source body => do
    expression source
    target false assigned
    inLoop (statements body)
  | .loop _ condition body => do
    expression condition
    inLoop (statements body)
  | .define _ namePlace name parameters body => do
    let _ ← bindName namePlace name
    defaults parameters
    within true do
      noteParameters (parameters.map (·.1))
      statements body
  | .giveBack place result => do
    if !(← isInFunction) then fault place "return statement not within a function"
    expression result
  | .load place _ names => do
    if ← isInFunction then fault place "load statement within a function"
    else if 0 < (← get).loops then fault place "load statement within a loop"
    else if 0 < (← get).choices then fault place "load statement within a conditional"
    loadedNames names

/-- Looks through several statements. -/
def statements : List Stmt → Surveying Unit
  | [] => pure ()
  | stmt :: rest => do
    statement stmt
    statements rest

end

end Survey

/-- The names that are there before a statement: those of the session, which a statement can assign
anew or merely use, and those that are always there.
-/
structure Surroundings where
  /-- Names of the session become names of the statement when they are used. -/
  adopts : Bool
  isSession : String → Bool
  isUniversal : String → Bool

namespace Survey

/-- Looks a name up from a block outwards. Every block on the way knows it from then on. The result
says whether a block has it. The first argument bounds how deep blocks are nested.
-/
def known (name : String) : Nat → Nat → Array Block → Bool × Array Block
  | 0, _, blocks => (false, blocks)
  | fuel + 1, block, blocks =>
    if block = 0 then (false, blocks)
    else
      match blocks[block]? with
      | none => (false, blocks)
      | some found =>
        if found.names.contains name then (true, blocks)
        else
          let (isKnown, blocks) := known name fuel found.parent blocks
          (isKnown, blocks.modify block fun block => { block with names := name :: block.names })

/-- The names that blocks have, from a block outwards. -/
def namesAround (blocks : Array Block) : Nat → Nat → List String
  | 0, _ => []
  | fuel + 1, block =>
    match blocks[block]? with
    | none => []
    | some found =>
      found.names ++ if block = 0 then [] else namesAround blocks fuel found.parent

/-- Settles one use of a name. -/
def settleUse (surroundings : Surroundings) (use : Place × String × Nat) : Surveying Unit := do
  let (place, name, block) := use
  let survey ← get
  let depth := survey.blocks.size
  let candidates := namesAround survey.blocks depth block ++ survey.globals.map (·.1)
  let (isKnown, blocks) := known name depth block survey.blocks
  set { survey with blocks }
  if !isKnown && (survey.globals.lookup name).isNone then
    if surroundings.isSession name then
      if surroundings.adopts then
        modify fun survey => { survey with globals := survey.globals ++ [(name, place)] }
    else if !surroundings.isUniversal name then
      let hint := match Text.nearest? name (candidates.mergeSort fun a b => a ≤ b) with
        | some meant => s!" (did you mean {meant}?)"
        | none => ""
      fault place ("undefined: " ++ name ++ hint)

/-- Settles the uses of names in a block, those in the blocks within it first. The first argument
bounds how deep blocks are nested.
-/
def settle (surroundings : Surroundings) : Nat → Nat → Surveying Unit
  | 0, _ => pure ()
  | fuel + 1, block => do
    let found := ((← get).blocks[block]?).getD {}
    found.children.reverse.forM (settle surroundings fuel)
    found.uses.reverse.forM (settleUse surroundings)

/-- What comes of looking through something: the first fault, or the names that it takes from the
session or assigns there.
-/
def outcome (surroundings : Surroundings) (inside : Surveying Unit)
    : Except (Place × String) (List String) :=
  let ((), survey) := inside.run {}
  let ((), survey) :=
    if survey.faults.isEmpty then (settle surroundings (survey.blocks.size + 1) 0).run survey
    else ((), survey)
  match survey.faults.getLast? with
  | some fault => .error fault
  | none => .ok (survey.globals.map (·.1))

end Survey


/-! The names that are assigned within a function belong to it. -/

namespace Locals

mutual

/-- The names that are assigned to. -/
def ofTarget : Expr → List String
  | .name _ name => [name]
  | .tuple _ items => ofTargets items
  | .list _ items => ofTargets items
  | .paren _ inner => ofTarget inner
  | _ => []

/-- The names that are assigned to in several places. -/
def ofTargets : List Expr → List String
  | [] => []
  | expr :: rest => ofTarget expr ++ ofTargets rest

end

mutual

/-- The names that a statement assigns to. -/
def ofStatement : Stmt → List String
  | .assign _ assigned _ => ofTarget assigned
  | .update _ _ assigned _ => ofTarget assigned
  | .choose _ _ yes no => ofStatements yes ++ ofStatements no
  | .each _ assigned _ body => ofTarget assigned ++ ofStatements body
  | .loop _ _ body => ofStatements body
  | .define _ _ name _ _ => [name]
  | .load _ _ names => names.map fun (_, here) => here.2
  | _ => []

/-- The names that statements assign to. -/
def ofStatements : List Stmt → List String
  | [] => []
  | stmt :: rest => ofStatement stmt ++ ofStatements rest

end

/-- The names that the clauses of a comprehension assign to. -/
def ofClauses (clauses : List (ClauseKind × Expr × Expr)) : List String :=
  clauses.flatMap fun (_, assigned, _) => ofTarget assigned

end Locals

end TapeMachine.Shell
