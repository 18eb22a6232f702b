import TapeMachine.Machine.View
import TapeMachine.Shell.Datum

/-!
What the debug shell sees of a machine: its registers, a window of cells and two functions that
read the tape. Nothing that can be said in the shell changes the machine.
-/

namespace TapeMachine.Shell

/-- The registers of a machine as data. -/
def registers (view : MachineView) : List (String × Datum) :=
  [ ("addr", .int (.int64 view.address)),
    ("cell", .int (.uint8 view.cell)),
    ("from", .int (.int64 view.start)),
    ("loops", .sequence (view.loops.map fun start => .int (.int64 (.ofNat start)))),
    ("negative", .int (.int64 (.ofNat view.negative))),
    ("pc", .int (.int64 (.ofInt view.pc))),
    ("positive", .int (.int64 (.ofNat view.positive))),
    ("skip", .int (.int64 view.skip)),
    ("steps", .int (.int64 view.steps)),
    ("window", .bytes view.window.toList)]

/-- Everything the shell knows by name, in order of the names. -/
def tapData (m : Machine) : List (String × Datum) :=
  (registers m.view ++ [("cells", Datum.function 0), ("peek", Datum.function 1)]).mergeSort
    fun a b => a.1 ≤ b.1

/-- The names the shell knows. -/
def tapNames (m : Machine) : List String :=
  (tapData m).map (·.1)

/-- The globals of the shell. -/
def tapGlobals (m : Machine) : Globals :=
  match toGlobals (tapData m) with
  | .ok globals => globals
  | .error _ => []

/-- Why a call gave no value. -/
inductive CallError where
  /-- There is no such function. -/
  | unknown
  /-- The arguments do not fit, for a reason. -/
  | badArguments (message : String)
  /-- An argument is no data at all. -/
  | notData
  /-- The range of cells is too wide. -/
  | tooWide
  deriving DecidableEq, Inhabited

/-- What is said about a value of a kind that no number can be read from. -/
def unreadable (kind : String) : CallError :=
  .badArguments ("unmarshaling kind: " ++ kind ++ " to int\nunmarshal error\npath: ")

/-- An argument as an address. None counts as zero, other values than integers do not fit. -/
def addressOf : Value → Except CallError Address
  | .none => .ok 0
  | .int value =>
    if -0x8000000000000000 ≤ value && value < 0x8000000000000000 then .ok (Int64.ofInt value)
    else .error (.badArguments "int too large")
  | .float _ => .error (.badArguments "not a float: int")
  | .list _ => .error (.badArguments "not a list: int")
  | .tuple _ => .error (.badArguments "not a tuple: int")
  | .bool _ => .error (unreadable "KindBool")
  | .text _ => .error (unreadable "KindString")
  | .bytes _ => .error (unreadable "KindBytes")
  | .dict _ => .error (unreadable "KindMap")
  | .function _ _ => .error .notData

/-- Takes the next argument as an address; gives it with the arguments behind it. -/
def takeAddress : List Value → Except CallError (Address × List Value)
  | [] => .error (.badArguments "not enough argument")
  | value :: rest => do return (← addressOf value, rest)

/-- Calls one of the functions that read the tape. Arguments beyond those it takes are ignored. -/
def callTap (tape : Tape) (name : String) (arguments : List Value) : Except CallError Value := do
  match name with
  | "peek" =>
    let (address, _) ← takeAddress arguments
    return .int (tape.peek address).toNat
  | "cells" =>
    let (start, rest) ← takeAddress arguments
    let (stop, _) ← takeAddress rest
    match tape.range? start stop with
    | some content => return .bytes content.toList
    | none => throw .tooWide
  | _ => throw .unknown

end TapeMachine.Shell
