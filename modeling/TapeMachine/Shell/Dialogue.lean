import TapeMachine.Shell.Evaluate
import TapeMachine.Shell.Grammar

/-!
A session in the debug shell: statements are read from lines one after another, and each is
answered. An expression is answered with its value, other statements are only carried out; what
goes wrong is told and ends nothing but the statement.
-/

namespace TapeMachine.Shell

mutual

/-- A value as a thing of the shell. -/
def Value.toObject : Value → Run Object
  | .none => return .none
  | .bool value => return .bool value
  | .int value => return .int value
  | .float value => return .float value
  | .text value => return .ofString value
  | .bytes content => return .bytes content
  | .list items => do Run.newList (← toObjects items)
  | .tuple items => return .tuple (← toObjects items)
  | .dict entries => do Run.newDict (← toObjectEntries entries).toArray
  | .function name _ => return .probe name

/-- Values as things of the shell. -/
def toObjects : List Value → Run (List Object)
  | [] => return []
  | value :: rest => do
    let object ← value.toObject
    return object :: (← toObjects rest)

/-- Entries of a dictionary as things of the shell. -/
def toObjectEntries : List (Value × Value) → Run (List (Object × Object))
  | [] => return []
  | (key, value) :: rest => do
    let key ← key.toObject
    let value ← value.toObject
    return (key, value) :: (← toObjectEntries rest)

end

/-- Gives a name of the session a value. -/
def World.setGlobal (world : World) (name : String) (value : Object) : World :=
  let isKnown := (world.globals.lookup name).isSome
  { world with
    globals :=
      if isKnown then
        world.globals.map fun (other, old) => if other = name then (other, value) else (other, old)
      else world.globals ++ [(name, value)] }

/-- Lets the names of a machine stand for what they are in it. A function is known by its name. -/
def introduce : Globals → Run Unit
  | [] => pure ()
  | (name, value) :: rest => do
    let object ← match value with
      | .function _ _ => pure (Object.probe name)
      | value => value.toObject
    modify fun world => world.setGlobal name object
    introduce rest

/-- The beginning of a session about a machine. -/
def World.ofMachine (m : Machine) : World :=
  match (introduce (tapGlobals m)).run { tape := m.tape } with
  | .ok () world => world
  | .error _ world => world

/-- How a statement brings the whole program down. -/
inductive Crash where
  /-- What waits for the answer still learns that there is none. -/
  | orderly
  /-- Everything ends at once. -/
  | abrupt
  deriving DecidableEq, Inhabited

/-- What comes of a statement. -/
structure Answer where
  /-- What is said in answer. -/
  output : String := ""
  /-- What is said on the side. -/
  errors : String := ""
  /-- The statement brought the whole program down. -/
  crash : Option Crash := none
  deriving DecidableEq, Inhabited

/-- One call in an account of what was under way. -/
def Frame.render (frame : Frame) : String :=
  let place :=
    if frame.isBuiltin then "<builtin>"
    else
      match frame.place with
      | some place => place.render
      | none => "<stdin>"
  "  " ++ place ++ ": in " ++ frame.name ++ "\n"

/-- An account of a failure and of the calls that were under way, the innermost last. A function
that is always there and failed itself is named with the failure.
-/
def traceback (frames : List Frame) (message : String) : String :=
  let (culprit, frames) := match frames with
    | frame :: others => if frame.isBuiltin then (" in " ++ frame.name, others) else ("", frames)
    | [] => ("", frames)
  let heading := if frames.isEmpty then "" else "Traceback (most recent call last):\n"
  heading ++ String.join (frames.reverse.map Frame.render) ++ "Error" ++ culprit ++ ": " ++ message
    ++ "\n"

namespace World

/-- The names around a statement. -/
def surroundings (world : World) (adopts : Bool) : Surroundings :=
  { adopts
    isSession := fun name => (world.globals.lookup name).isSome
    isUniversal := fun name => (universal? name).isSome }

/-- What is told about a name that is wrong. -/
def misnamed (world : World) (fault : Place × String) : Answer × World :=
  ({ errors := fault.1.render ++ ": " ++ fault.2 ++ "\n" }, world)

/-- What is told about an outcome, and the session afterwards: nothing is under way any more. -/
def settled (outcome : EStateM.Result Failure World String) : Answer × World :=
  let clear (world : World) : World :=
    { world with frames := [], printed := "" }
  match outcome with
  | .ok output world => ({ output, errors := world.printed }, clear world)
  | .error (.raised message) world =>
    ({ errors := world.printed ++ traceback world.frames message }, clear world)
  | .error .breakdown world =>
    ({ errors := world.printed, crash := some .orderly }, clear world)

/-- The name of the value of the last expression that had one. -/
def lastValue : String := "_"

/-- Answers an expression. -/
def answerExpression (world : World) (expr : Expr) : Answer × World :=
  match Survey.outcome (world.surroundings false) (Survey.expression expr) with
  | .error fault => world.misnamed fault
  | .ok _ =>
    let env : Surrounding := {}
    let isGlobal (name : String) : Bool := (world.globals.lookup name).isSome
    let frame : Frame :=
      { name := "<expr>", place := FirstMark.ofExpr? (env.isNoted isGlobal) expr }
    let world := { world with frames := [frame], statements := world.statements + 1 }
    settled ((do
      let object ← (Evaluator.bounded Evaluator.depth).eval env expr
      modify fun (world : World) => world.setGlobal lastValue object
      match object with
      | .none => return ""
      | object => return (← Run.render object) ++ "\n").run world)

/-- The names of a statement become names of the session, as far as they have values. -/
def adopt (world : World) (home : Nat) : World :=
  match world.store[home]? with
  | some (.names values) =>
    values.foldl (fun world (name, value) =>
      match value with
      | some value => world.setGlobal name value
      | none => world) world
  | _ => world

/-- Carries statements out. -/
def answerStatements (world : World) (stmts : List Stmt) : Answer × World :=
  match Survey.outcome (world.surroundings true) (Survey.statements stmts) with
  | .error fault => world.misnamed fault
  | .ok names =>
    let home := world.store.size
    let values := names.map fun name => (name, world.globals.lookup name)
    let env : Surrounding := { home := some home }
    let frame : Frame :=
      { name := "<toplevel>"
        place := FirstMark.ofStmts? (env.isNoted names.contains) stmts }
    let world :=
      { world with
        store := world.store.push (.names values)
        frames := [frame]
        statements := world.statements + 1 }
    let (answer, world) := settled ((do
      let _ ← (Evaluator.bounded Evaluator.depth).exec env stmts
      return "").run world)
    (answer, world.adopt home)

/-- Answers what comes next of lines; gives the lines behind it, or none if nothing more can be
read.
-/
def answerNext (world : World) (lines : List Line) : Answer × World × Option (List Line) :=
  let (reading, later, echo) := readStatements lines
  let finish (answer : Answer) (world : World) (lines : Option (List Line))
      : Answer × World × Option (List Line) :=
    ({ answer with output := echo ++ answer.output }, world, lines)
  match reading with
  | .error .ended => finish {} world none
  | .error .breakdown => finish { crash := some .abrupt } world none
  | .error (.complaint place message) =>
    let (answer, world) := world.misnamed (place, message)
    finish answer world (some later)
  | .ok [.value expr] =>
    let (answer, world) := world.answerExpression expr
    finish answer world (some later)
  | .ok stmts =>
    let (answer, world) := world.answerStatements stmts
    finish answer world (some later)

/-- The answers to lines, up to the last that can be read or to one that brings the program down.
The first argument bounds their number.
-/
def answers : Nat → World → List Line → List Answer
  | 0, _, _ => []
  | fuel + 1, world, lines =>
    match world.answerNext lines with
    | (answer, _, none) => [answer]
    | (answer, world, some later) =>
      if answer.crash.isSome then [answer] else answer :: answers fuel world later

end World

/-- The answers of the shell to what is typed about a machine. -/
def converse (m : Machine) (typed : List UInt8) : List Answer :=
  let lines := linesOf typed
  (World.ofMachine m).answers (lines.length + 1) lines

end TapeMachine.Shell
