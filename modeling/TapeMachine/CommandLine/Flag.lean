import TapeMachine.CommandLine.Argument

/-!
The flags of a command line and what the commands that belong to them do to their values.
-/

namespace TapeMachine.CommandLine

/-- The value of a flag. -/
inductive FlagValue where
  /-- The argument given last. -/
  | single (value : Argument)
  /-- How often the flag was given. -/
  | count (times : Int)
  /-- All arguments in order. -/
  | collected (values : List Argument)
  deriving Inhabited

/-- The flags that were declared, with their values. -/
structure Flags where
  entries : List (String × FlagValue) := []
  deriving Inhabited

namespace Flags

/-- The value of a flag. -/
def get? (flags : Flags) (name : String) : Option FlagValue :=
  flags.entries.lookup name

/-- Declares a flag with its first value. -/
def declare (flags : Flags) (name : String) (value : FlagValue) : Flags :=
  { entries := flags.entries ++ [(name, value)] }

/-- Changes the value of a flag, if it is declared. -/
def modify (flags : Flags) (name : String) (f : FlagValue → FlagValue) : Flags :=
  { entries := flags.entries.map fun entry =>
      if entry.1 = name then (entry.1, f entry.2) else entry }

/-- The integer a flag holds; zero if there is none. -/
def int (flags : Flags) (name : String) : Int :=
  match flags.get? name with
  | some (.single (.int value)) => value
  | some (.count times) => times
  | _ => 0

/-- The text a flag holds; empty if there is none. -/
def text (flags : Flags) (name : String) : String :=
  match flags.get? name with
  | some (.single (.text value)) => value
  | _ => ""

/-- A switch is on. -/
def isOn (flags : Flags) (name : String) : Bool :=
  match flags.get? name with
  | some (.single (.bool value)) => value
  | _ => false

/-- The texts a flag collected. -/
def texts (flags : Flags) (name : String) : List String :=
  match flags.get? name with
  | some (.collected values) => values.filterMap fun
    | .text value => some value
    | _ => none
  | _ => []

end Flags

/-- What a command does to the flags. -/
inductive FlagChange where
  /-- The flag takes the argument. -/
  | store (flag : String)
  /-- The flag takes a fixed value. -/
  | assign (flag : String) (value : Argument)
  /-- The flag counts one more. -/
  | increment (flag : String)
  /-- The flag collects the argument. -/
  | collect (flag : String)
  deriving Inhabited

/-- The flags after a change with the arguments of the command. -/
def FlagChange.apply (change : FlagChange) (arguments : List Argument) (flags : Flags) : Flags :=
  match change, arguments with
  | store flag, value :: _ => flags.modify flag fun _ => .single value
  | assign flag value, _ => flags.modify flag fun _ => .single value
  | increment flag, _ => flags.modify flag fun
    | .count times => .count (times + 1)
    | other => other
  | collect flag, value :: _ => flags.modify flag fun
    | .collected values => .collected (values ++ [value])
    | other => other
  | _, _ => flags

end TapeMachine.CommandLine
