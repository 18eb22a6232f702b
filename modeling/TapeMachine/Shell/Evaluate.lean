import TapeMachine.Shell.Builtin
import TapeMachine.Shell.FirstMark
import TapeMachine.Shell.Scope

/-!
What expressions and statements of the debug shell do. Each step that can fail first notes its
place, so that a failure can say where it came up.
-/

namespace TapeMachine.Shell

/-- Where statements lead. -/
inductive Flow where
  | onward
  /-- Out of the innermost loop. -/
  | leave
  /-- To the next round of the innermost loop. -/
  | again
  /-- Out of the function, with a value. -/
  | result (value : Object)
  deriving Inhabited

/-- What a round leads to, if it is the last one of a loop. -/
def Flow.afterLoop? : Flow → Option Flow
  | .leave => some .onward
  | .result value => some (.result value)
  | _ => none

/-- How the parts of expressions and statements are worked through. -/
structure Evaluator where
  eval : Surrounding → Expr → Run Object
  exec : Surrounding → List Stmt → Run Flow

namespace Surrounding

/-- What a name that is not one of a block stands for, if it is not always there. -/
def global? (surrounding : Surrounding) (name : String) : Run (Option (Option Object)) := do
  match surrounding.home with
  | none => return ((← get).globals.lookup name).map some
  | some home =>
    match ← Run.cell home with
    | .names values => return values.lookup name
    | _ => return none

/-- The variable of a name, if it is one of a block. -/
def address? (surrounding : Surrounding) (name : String) : Option Nat :=
  surrounding.blocks.findSome? fun block => block.lookup name

/-- What a name stands for. -/
def lookup (surrounding : Surrounding) (place : Place) (name : String) : Run Object := do
  match surrounding.address? name with
  | some address =>
    Run.mark place
    match ← Run.cell address with
    | .slot (some value) => return value
    | _ => Run.raise s!"local variable {name} referenced before assignment"
  | none =>
    match ← surrounding.global? name with
    | some found =>
      Run.mark place
      match found with
      | some value => return value
      | none => Run.raise s!"global variable {name} referenced before assignment"
    | none => return (universal? name).getD .none

/-- Lets a name stand for a value. -/
def assign (surrounding : Surrounding) (name : String) (value : Object) : Run Unit := do
  match surrounding.address? name, surrounding.home with
  | some address, _ => Run.setCell address (.slot (some value))
  | none, some home =>
    match ← Run.cell home with
    | .names values =>
      Run.setCell home (.names (values.map fun (other, old) =>
        if other = name then (other, some value) else (other, old)))
    | _ => pure ()
  | none, none => pure ()

/-- A new block of names within. -/
def extend (surrounding : Surrounding) (names : List String) : Run Surrounding := do
  let block ← names.eraseDups.mapM fun name => do
    pure (name, ← Run.allocate (.slot none))
  return { surrounding with blocks := block :: surrounding.blocks }

/-- The place of a name is noted when the name is looked up. -/
def isNoted (surrounding : Surrounding) (isGlobal : String → Bool) (name : String) : Bool :=
  (surrounding.address? name).isSome || isGlobal name || (universal? name).isNone

end Surrounding

namespace Evaluator

/-- Goes through a thing, which does not change meanwhile, until a step has an outcome. -/
def search? {α : Type} (place : Place) (source : Object) (step : Object → Run (Option α))
    : Run (Option α) := do
  Run.mark place
  match ← Run.course? source with
  | none => Run.raise s!"{source.typeName} value is not iterable"
  | some course => Run.visiting source (course.find? step)

/-- Goes through a thing, which does not change meanwhile. -/
def forEach (place : Place) (source : Object) (step : Object → Run Unit) : Run Unit := do
  let _ ← search? place source fun item => do
    step item
    return (none : Option Unit)

/-- The items of a thing for so many targets. If there are too many, one stays with the thing for
good, which never changes again.
-/
def unpack (place : Place) (count : Nat) (value : Object) : Run (List Object) := do
  Run.mark place
  match ← Run.course? value with
  | none => Run.raise s!"got {value.typeName} in sequence assignment"
  | some course =>
    if count < course.length then
      Run.visit value (· + 1)
      let length : Int := ((← Run.length? value).map Int.ofNat).getD (-1)
      Run.raise s!"too many values to unpack (got {length}, want {count})"
    if course.length < count then
      Run.raise s!"too few values to unpack (got {course.length}, want {count})"
    return course.toList

mutual

/-- Assigns a value. -/
def assign (self : Evaluator) (env : Surrounding) (place : Place) (value : Object)
    : Expr → Run Unit
  | .name _ name => env.assign name value
  | .paren _ inner => assign self env place value inner
  | .tuple _ targets => do
    let items ← unpack place targets.length value
    assignAll self env place items targets
  | .list _ targets => do
    let items ← unpack place targets.length value
    assignAll self env place items targets
  | .index bracket target key => do
    let owner ← self.eval env target
    let key ← self.eval env key
    Run.mark bracket
    Access.setIndex owner key value
  | .member dot target name => do
    let owner ← self.eval env target
    Run.mark dot
    Run.raise s!"can't assign to .{name} field of {owner.typeName}"
  | _ => pure ()

/-- Assigns values one by one. -/
def assignAll (self : Evaluator) (env : Surrounding) (place : Place)
    (values : List Object) : List Expr → Run Unit
  | [] => pure ()
  | target :: rest =>
    match values with
    | value :: others => do
      assign self env place value target
      assignAll self env place others rest
    | [] => pure ()

end

/-- Combines the value of a target with another and assigns the outcome. -/
def update (self : Evaluator) (env : Surrounding) (place : Place) (operator : BinaryOperator)
    (target source : Expr) : Run Unit := do
  let combine (old : Object) : Run Object := do
    let value ← self.eval env source
    Run.mark place
    Operator.update operator old value
  match target.unwrapped with
  | .name namePlace name =>
    env.assign name (← combine (← env.lookup namePlace name))
  | .index bracket basis key =>
    let owner ← self.eval env basis
    let key ← self.eval env key
    Run.mark bracket
    let value ← combine (← Access.index owner key)
    Run.mark bracket
    Access.setIndex owner key value
  | .member dot basis name =>
    let owner ← self.eval env basis
    Run.mark dot
    let _ ← combine (← Access.member owner name)
    Run.mark dot
    Run.raise s!"can't assign to .{name} field of {owner.typeName}"
  | _ => pure ()

/-- The defaults of parameters: a value, or a gap for a parameter that goes by name and has none.
The second argument says whether parameters go by name.
-/
def defaults (self : Evaluator) (env : Surrounding)
    : Bool → List Parameter → Run (List (Option Object))
  | _, [] => return []
  | byName, (kind, value) :: rest => do
    match kind with
    | .optional _ _ _ =>
      let value ← self.eval env value
      return some value :: (← defaults self env byName rest)
    | .required _ _ =>
      if byName then return none :: (← defaults self env byName rest)
      else defaults self env byName rest
    | _ => defaults self env true rest

/-- A new function. -/
def newFunction (self : Evaluator) (env : Surrounding) (place : Place) (name : String)
    (parameters : List Parameter) (body : List Stmt) : Run Object := do
  Run.mark place
  let defaults ← defaults self env false parameters
  let origin := ((← get).statements, place)
  let closure : Closure := { name, origin, parameters, body, defaults, surrounding := env }
  return .function (← Run.allocate (.function closure)) name

/-- The parameters of a function by what they take. -/
structure Signature where
  /-- The names of parameters that take one argument, those that go by name last. -/
  ordinary : List String := []
  /-- How many of them go by name only. -/
  byName : Nat := 0
  rest : Option String := none
  namedRest : Option String := none

/-- Sorts the parameters of a function. -/
def Signature.ofParameters (parameters : List Parameter) : Signature :=
  parameters.foldl (fun (state : Signature × Bool) (kind, _) =>
    let (signature, isBehind) := state
    let add (name : String) : Signature :=
      { signature with
        ordinary := signature.ordinary ++ [name]
        byName := signature.byName + if isBehind then 1 else 0 }
    match kind with
    | .required _ name => (add name, isBehind)
    | .optional _ name _ => (add name, isBehind)
    | .barrier _ => (signature, true)
    | .rest _ _ name => ({ signature with rest := some name }, true)
    | .namedRest _ _ name => ({ signature with namedRest := some name }, isBehind))
    (({} : Signature), false) |>.1

/-- Gives named arguments to parameters; those that belong to none are gathered. -/
def giveNamed (name : String) (signature : Signature)
    : List (List UInt8 × Object) → Array (Option Object) → List (List UInt8 × Object)
      → Run (Array (Option Object) × List (List UInt8 × Object))
  | [], found, surplus => return (found, surplus)
  | (key, value) :: rest, found, surplus => do
    let repeated : Run Unit := Run.raise
      s!"function {name} got multiple values for parameter {Text.quotedBytes key}"
    match signature.ordinary.findIdx? fun other => Text.encode other.toList == key with
    | some position =>
      if (found.getD position none).isSome then repeated
      giveNamed name signature rest (found.setIfInBounds position (some value)) surplus
    | none =>
      if signature.namedRest.isNone then
        Run.raise
          s!"function {name} got an unexpected keyword argument {Text.quotedBytes key}"
      if surplus.any fun entry => entry.1 == key then repeated
      giveNamed name signature rest found (surplus ++ [(key, value)])

/-- Fills the parameters that were given nothing with their defaults; names those that are missing.
-/
def fillDefaults (names : List String) (defaults : List (Option Object))
    (found : List (Option Object)) : List String × List (Option Object) :=
  let gaps := names.length - defaults.length
  let offered := List.replicate gaps (none : Option Object) ++ defaults
  let filled := (found.zip offered).map fun (given, offer) => given.or offer
  ((names.zip filled).filterMap fun (name, value) => if value.isNone then some name else none,
    filled)

/-- The variables of a function when it is called. -/
def bindArguments (closure : Closure) (arguments : Arguments) : Run (List (String × Object)) := do
  let signature := Signature.ofParameters closure.parameters
  let name := closure.name
  let given := arguments.positional
  if closure.parameters.all fun (kind, _) => kind matches .barrier _ then
    let count := given.length + arguments.named.length
    if 0 < count then Run.raise s!"function {name} accepts no arguments ({count} given)"
    return []
  else
    let most := signature.ordinary.length - signature.byName
    if most < given.length && signature.rest.isNone then
      let limit := if signature.byName < closure.defaults.length then "at most " else ""
      let plural := if most = 1 then "" else "s"
      Run.raise (s!"function {name} accepts {limit}{most} positional argument{plural} "
        ++ s!"({given.length} given)")
    let taken := (given.take most).map some
    let start := taken ++ List.replicate (signature.ordinary.length - taken.length) none
    let (found, surplus) ← giveNamed name signature arguments.named start.toArray []
    let (missing, filled) := fillDefaults signature.ordinary closure.defaults found.toList
    if !missing.isEmpty then
      let plural := if missing.length = 1 then "" else "s"
      let list := ", ".intercalate missing
      Run.raise s!"function {name} missing {missing.length} argument{plural} ({list})"
    let ordinary := (signature.ordinary.zip filled).map fun (name, value) =>
      (name, value.getD .none)
    let rest := match signature.rest with
      | some name => [(name, .tuple (given.drop most))]
      | none => []
    let namedRest ← match signature.namedRest with
      | some name => do
        let entries := surplus.map fun (key, value) => (Object.text key, value)
        pure [(name, ← Run.newDict entries.toArray)]
      | none => pure []
    return ordinary ++ rest ++ namedRest

/-- Does something within a call. What goes wrong leaves the call under way. -/
def within {α : Type} (frame : Frame) (inside : Run α) : Run α := do
  modify fun world => { world with frames := frame :: world.frames }
  let result ← inside
  modify fun world => { world with frames := world.frames.drop 1 }
  return result

/-- Calls a function that was defined in the shell. -/
def callClosure (self : Evaluator) (closure : Closure) (arguments : Arguments) : Run Object := do
  let locals := Locals.ofStatements closure.body
  let parameters := closure.parameters.filterMap fun (kind, _) =>
    match kind with
    | .required _ name => some name
    | .optional _ name _ => some name
    | .rest _ _ name => some name
    | .namedRest _ _ name => some name
    | .barrier _ => none
  let isOwn (name : String) : Bool := locals.contains name || parameters.contains name
  let outer := closure.surrounding
  let isGlobal ← match outer.home with
    | some home => do
      match ← Run.cell home with
      | .names values => pure fun (name : String) => (values.lookup name).isSome
      | _ => pure fun _ => false
    | none => do
      let globals := (← get).globals
      pure fun (name : String) => (globals.lookup name).isSome
  let isNoted (name : String) : Bool := isOwn name || outer.isNoted isGlobal name
  let isUnderWay := (← get).frames.any fun frame => frame.origin == some closure.origin
  let frame : Frame :=
    { name := closure.name
      origin := some closure.origin
      place := FirstMark.ofStmts? isNoted closure.body }
  within frame do
    if isUnderWay then Run.raise s!"function {closure.name} called recursively"
    let values ← bindArguments closure arguments
    let env ← outer.extend (parameters ++ locals)
    values.forM fun (name, value) => env.assign name value
    match ← self.exec env closure.body with
    | .result value => return value
    | _ => return .none

/-- Calls a thing with arguments. The first argument bounds how deep calls are nested that the
functions of the shell itself make.
-/
def callWithin (self : Evaluator) : Nat → Object → Arguments → Run Object
  | 0, _, _ => Run.raise "too many calls"
  | fuel + 1, object, arguments => do
    let invoke : Builtin.Invoke := fun function given =>
      callWithin self fuel function { positional := given }
    match object with
    | .function address _ =>
      match ← Run.cell address with
      | .function closure => callClosure self closure arguments
      | _ => return .none
    | .builtin name => within { name, isBuiltin := true } (Builtin.call invoke name arguments)
    | .probe name => within { name := "", isBuiltin := true } (Builtin.callProbe name arguments)
    | .method name owner _ =>
      within { name, isBuiltin := true } (Builtin.callMethod name owner arguments)
    | other => Run.raise s!"invalid call of non-function ({other.typeName})"

/-- Calls a thing with arguments. -/
def call (self : Evaluator) (object : Object) (arguments : Arguments) : Run Object :=
  callWithin self 100 object arguments

/-- The values of several expressions. -/
def evalAll (self : Evaluator) (env : Surrounding) : List Expr → Run (List Object)
  | [] => return []
  | expr :: rest => do
    let value ← self.eval env expr
    return value :: (← evalAll self env rest)

/-- The arguments that are written one by one, and the things whose items are arguments. -/
structure Gathered where
  positional : List Object := []
  named : List (List UInt8 × Object) := []
  rest : Option Expr := none
  namedRest : Option Expr := none

/-- The values of the arguments that are written one by one. -/
def gather (self : Evaluator) (env : Surrounding)
    : List (ArgumentKind × Expr) → Gathered → Run Gathered
  | [], gathered => return gathered
  | (kind, expr) :: others, gathered => do
    match kind with
    | .plain =>
      let value ← self.eval env expr
      gather self env others { gathered with positional := gathered.positional ++ [value] }
    | .named _ name =>
      let value ← self.eval env expr
      let entry := (Text.encode name.toList, value)
      gather self env others { gathered with named := gathered.named ++ [entry] }
    | .spread _ => gather self env others { gathered with rest := some expr }
    | .spreadNamed _ => gather self env others { gathered with namedRest := some expr }

/-- The named arguments that the entries of a dictionary are. -/
def spreadNamed (object : Object) : Run (List (List UInt8 × Object)) := do
  match object with
  | .dict address =>
    (← Run.dictEntries address).toList.mapM fun (key, value) =>
      match key with
      | .text content => (pure (content, value) : Run (List UInt8 × Object))
      | other => Run.raise s!"keywords must be strings, not {other.typeName}"
  | other => Run.raise s!"argument after ** must be a mapping, not {other.typeName}"

/-- The value of a call. -/
def evalCall (self : Evaluator) (env : Surrounding) (place : Place) (function : Expr)
    (arguments : List (ArgumentKind × Expr)) : Run Object := do
  let callee ← self.eval env function
  let gathered ← gather self env arguments {}
  let rest ← match gathered.rest with
    | some expr => do pure (some (← self.eval env expr))
    | none => pure none
  let namedRest ← match gathered.namedRest with
    | some expr => do pure (some (← self.eval env expr))
    | none => pure none
  Run.mark place
  let moreNamed ← match namedRest with
    | some object => spreadNamed object
    | none => pure []
  let more ← match rest with
    | some object =>
      match ← Run.items? object with
      | some items => pure items
      | none => Run.raise s!"argument after * must be iterable, not {object.typeName}"
    | none => pure []
  call self callee
    { positional := gathered.positional ++ more, named := gathered.named ++ moreNamed }

/-- Does something for each round that clauses give rise to. -/
def evalClauses (self : Evaluator) (env : Surrounding) (inside : Run Unit)
    : List (ClauseKind × Expr × Expr) → Run Unit
  | [] => inside
  | (.only, _, condition) :: rest => do
    if ← Run.truth (← self.eval env condition) then evalClauses self env inside rest
  | (.each place, targets, source) :: rest => do
    let source ← self.eval env source
    forEach place source fun item => do
      assign self env place item targets
      evalClauses self env inside rest

/-- The value of a comprehension. -/
def evalComprehension (self : Evaluator) (env : Surrounding) (isDict : Bool) (key : Expr)
    (colon : Place) (value : Expr) (clauses : List (ClauseKind × Expr × Expr)) : Run Object := do
  let address ← Run.allocate (if isDict then .dict #[] 0 else .list #[] 0)
  match clauses with
  | (.each place, targets, source) :: rest =>
    let source ← self.eval env source
    let inner ← env.extend (Locals.ofClauses clauses)
    let inside : Run Unit := do
      if isDict then
        let key ← self.eval inner key
        let value ← self.eval inner value
        Run.mark colon
        Run.putEntry address key value
      else
        let value ← self.eval inner value
        Run.pushItem address value
    forEach place source fun item => do
      assign self inner place item targets
      evalClauses self inner inside rest
  | _ => pure ()
  return if isDict then .dict address else .list address

/-- Puts entries into a dictionary, each with a key of its own. -/
def evalEntries (self : Evaluator) (env : Surrounding) (address : Nat)
    : List (Place × Expr × Expr) → Run Unit
  | [] => pure ()
  | (colon, key, value) :: rest => do
    let key ← self.eval env key
    let value ← self.eval env value
    Run.mark colon
    let before := (← Run.dictEntries address).size
    Run.putEntry address key value
    if (← Run.dictEntries address).size = before then
      Run.raise s!"duplicate key: {← Run.render key}"
    evalEntries self env address rest

/-- The value of a sum, given the value of its beginning and the operands that follow. -/
def evalSum (self : Evaluator) (env : Surrounding) (value : Object) : List Summand → Run Object
  | [] => return value
  | summand :: rest => do
    let second ← self.eval env summand.operand
    Run.mark summand.place
    evalSum self env (← Operator.binary .plus value second) rest

/-- The value of an expression, given how its parts are worked through. -/
def evalStep (self : Evaluator) (env : Surrounding) (expr : Expr) : Run Object := do
  match expr with
  | .omitted => return .none
  | .name place name => env.lookup place name
  | .int _ value => return .int value
  | .float _ value => return .float value
  | .text _ content => return .text content
  | .bytes _ content => return .bytes content
  | .list _ items => Run.newList (← evalAll self env items)
  | .tuple _ items => return .tuple (← evalAll self env items)
  | .paren _ inner => self.eval env inner
  | .dict _ entries =>
    let address ← Run.allocate (.dict #[] 0)
    evalEntries self env address entries
    return .dict address
  | .comprehension _ isDict key colon value clauses =>
    evalComprehension self env isDict key colon value clauses
  | .unary place operator operand =>
    let value ← self.eval env operand
    Run.mark place
    Operator.unary operator value
  | .binary place operator left right =>
    match operator with
    | .plus =>
      match Summand.joined expr.summands with
      | first :: rest => evalSum self env (← self.eval env first.operand) rest
      | [] => return .none
    | .or =>
      let first ← self.eval env left
      if ← Run.truth first then return first else self.eval env right
    | .and =>
      let first ← self.eval env left
      if ← Run.truth first then self.eval env right else return first
    | operator =>
      let first ← self.eval env left
      let second ← self.eval env right
      Run.mark place
      Operator.binary operator first second
  | .conditional condition yes no =>
    if ← Run.truth (← self.eval env condition) then self.eval env yes else self.eval env no
  | .index place target key =>
    let owner ← self.eval env target
    let key ← self.eval env key
    Run.mark place
    Access.index owner key
  | .slice place target low high step =>
    Run.mark place
    let owner ← self.eval env target
    let low ← self.eval env low
    let high ← self.eval env high
    let step ← self.eval env step
    Access.slice owner low high step
  | .member place target name =>
    let owner ← self.eval env target
    Run.mark place
    Access.member owner name
  | .call place function arguments => evalCall self env place function arguments
  | .lambda place parameters body =>
    newFunction self env place "lambda" parameters [.giveBack place body]

/-- How often a loop may go round. -/
def mostRounds : Nat := 0x1000000000000

/-- Goes round as long as a condition holds. The first argument bounds the number of rounds. -/
def execLoop (condition : Run Bool) (body : Run Flow) : Nat → Run Flow
  | 0 => return .onward
  | fuel + 1 => do
    if ← condition then
      match (← body).afterLoop? with
      | some flow => return flow
      | none => execLoop condition body fuel
    else return .onward

/-- Does a statement, given how its parts are worked through. -/
def execOne (self : Evaluator) (env : Surrounding) (stmt : Stmt) : Run Flow := do
  match stmt with
  | .value expr =>
    let _ ← self.eval env expr
    return .onward
  | .assign place target source =>
    let value ← self.eval env source
    assign self env place value target
    return .onward
  | .update place operator target source =>
    update self env place operator target source
    return .onward
  | .branch _ kind =>
    match kind with
    | .leave => return .leave
    | .next => return .again
    | .pass => return .onward
  | .choose _ condition yes no =>
    if ← Run.truth (← self.eval env condition) then self.exec env yes else self.exec env no
  | .each place targets source body =>
    let source ← self.eval env source
    let flow ← search? place source fun item => do
      assign self env place item targets
      return (← self.exec env body).afterLoop?
    return flow.getD .onward
  | .loop _ condition body =>
    execLoop (do Run.truth (← self.eval env condition)) (self.exec env body) mostRounds
  | .define place _ name parameters body =>
    env.assign name (← newFunction self env place name parameters body)
    return .onward
  | .giveBack _ result => return .result (← self.eval env result)
  | .load place _ _ =>
    Run.mark place
    Run.raise "load not implemented by this application"

/-- Does statements one after another, given how their parts are worked through. -/
def execStep (self : Evaluator) (env : Surrounding) : List Stmt → Run Flow
  | [] => return .onward
  | stmt :: rest => do
    match ← execOne self env stmt with
    | .onward => execStep self env rest
    | flow => return flow

/-- Works through expressions and statements that are nested no deeper than a bound. -/
def bounded : Nat → Evaluator
  | 0 => ⟨fun _ _ => Run.raise "nested too deeply", fun _ _ => Run.raise "nested too deeply"⟩
  | depth + 1 =>
    let inner := bounded depth
    ⟨evalStep inner, execStep inner⟩

/-- How deep expressions and statements may be nested. -/
def depth : Nat := 10000

end Evaluator

end TapeMachine.Shell
