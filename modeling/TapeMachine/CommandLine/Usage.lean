import TapeMachine.CommandLine.Command

/-!
The usage text: one line for each command, with its names and its description, and the
sub-commands indented below it.
-/

namespace TapeMachine.CommandLine

/-- The line of a command. -/
def usageLine (depth : Nat) (name : String) (aliases : List String) (description : String)
    : String :=
  let indent := String.ofList (List.replicate (2 * depth) ' ')
  let names := ", ".intercalate (name :: aliases)
  let text := if description.isEmpty then names else names ++ "\t" ++ description
  indent ++ text ++ "\n"

mutual

/-- The lines of a command and its sub-commands. -/
def commandUsage (depth : Nat) (name : String) : Command → String
  | ⟨_, _, subs, description, aliases⟩ =>
    usageLine depth name aliases description ++ entriesUsage (depth + 1) [] subs

/-- The lines of commands in order of their names. A command stands once, under the first of its
names that is not an alias; `seen` holds the keys of those that already do.
-/
def entriesUsage (depth : Nat) (seen : List String) : List (String × Option Command) → String
  | [] => ""
  | (_, none) :: rest => entriesUsage depth seen rest
  | (name, some command) :: rest =>
    if seen.contains command.key || command.aliases.contains name then
      entriesUsage depth seen rest
    else commandUsage depth name command ++ entriesUsage depth (command.key :: seen) rest

end

/-- The usage text of a table. -/
def Table.usage (table : Table) : String :=
  entriesUsage 0 [] table

end TapeMachine.CommandLine
