import TapeMachine.CommandLine.Flag

/-!
Commands and tables of commands. A command takes its arguments from the words that follow it and
does something with them; it may also make sub-commands known. A table lists commands under their
names, in order of the names.
-/

namespace TapeMachine.CommandLine

/-- A function was called with arguments. -/
structure Call where
  label : String
  arguments : List Argument
  deriving Inhabited

/-- What a command does when it is called. -/
inductive Effect where
  /-- A function outside is called. What it does may depend on the calls made before and on the
  flags; it may change the flags, and it may answer with an error.
  -/
  | outside (label : String)
    (act : List Call → Flags → List Argument → Flags × Option String)
  /-- The flags change. -/
  | flag (change : FlagChange)
  /-- The program is to print something and end; the text says what. -/
  | quit (reason : String)
  deriving Inhabited

/-- A function outside that answers to nothing but its arguments. -/
def Effect.call (label : String) (respond : List Argument → Option String) : Effect :=
  .outside label fun _ flags arguments => (flags, respond arguments)

/-- A command. Two names of which the commands have the same key are names of one command. A
command without a function only makes its sub-commands known.
-/
structure Command where
  key : String
  function : Option (List Kind × Effect) := none
  /-- The sub-commands in order of their names; a name may be kept without a command. -/
  subs : List (String × Option Command) := []
  description : String := ""
  aliases : List String := []
  deriving Inhabited

/-- Named commands in order of their names. -/
abbrev Table := List (String × Option Command)

/-- Adds a name to a list that is ordered by name. -/
def insertByName {α : Type} (name : String) (value : α) : List (String × α) → List (String × α)
  | [] => [(name, value)]
  | (other, old) :: rest =>
    if name < other then (name, value) :: (other, old) :: rest
    else (other, old) :: insertByName name value rest

/-- Why a command could not be built or registered. -/
inductive DefineError where
  /-- The name is taken. -/
  | duplicate (name : String)
  /-- There is no command to register. -/
  | noCommand
  /-- There is no command of that name. -/
  | unknown (name : String)
  /-- What should be a function is something else. -/
  | notFunction (kind : String)
  /-- What should be a function is missing. -/
  | noFunction
  /-- A function gives back something other than an error. -/
  | badResult (signature : String)
  /-- A function gives back too much. -/
  | manyResults (signature : String)
  deriving DecidableEq, Inhabited

/-- The text of the error. -/
def DefineError.message : DefineError → String
  | duplicate name => "duplicated command " ++ name
  | noCommand => "runtime error: invalid memory address or nil pointer dereference"
  | unknown name => "no such command: " ++ name
  | notFunction kind => "must be function, got " ++ kind
  | noFunction => "reflect: call of reflect.Value.Type on zero Value"
  | badResult signature => "must return error, got " ++ signature
  | manyResults signature => "must return 0 or 1 value, got " ++ signature

/-- The one kind of result that a function may have. -/
def resultKind : Kind := .other "error"

/-- How a function is written: its parameters and its results. -/
def signature (parameters results : List Kind) : String :=
  let given := "func(" ++ ", ".intercalate (parameters.map Kind.name) ++ ")"
  match results with
  | [] => given
  | [result] => given ++ " " ++ result.name
  | results => given ++ " (" ++ ", ".intercalate (results.map Kind.name) ++ ")"

/-- A function may serve as a command if it gives back nothing or an error. -/
def checkResults (parameters results : List Kind) : Except DefineError Unit :=
  match results with
  | [] => .ok ()
  | [result] =>
    if result = resultKind then .ok () else .error (.badResult (signature parameters results))
  | _ => .error (.manyResults (signature parameters results))

namespace Table

/-- A name is taken, if only by a missing command. -/
def contains (table : Table) (name : String) : Bool :=
  (table.lookup name).isSome

/-- Registers a command under names one after another, up to the first that is taken. What was
registered before stays.
-/
def registerAll (command : Command) : List String → Table → Option DefineError × Table
  | [], table => (none, table)
  | name :: names, table =>
    if contains table name then (some (.duplicate name), table)
    else registerAll command names (insertByName name (some command) table)

/-- Registers a command under a name and its aliases. A missing command takes its name all the
same.
-/
def define (table : Table) (name : String) : Option Command → Option DefineError × Table
  | some command => registerAll command (name :: command.aliases) table
  | none =>
    if contains table name then (some (.duplicate name), table)
    else (some .noCommand, insertByName name none table)

end Table

mutual

/-- Changes the description of a command wherever it stands. -/
def describeCommand (key description : String) : Command → Command
  | ⟨k, function, subs, old, aliases⟩ =>
    ⟨k, function, describeEntries key description subs,
      if k = key then description else old, aliases⟩

/-- Changes the description of a command in a list. -/
def describeEntries (key description : String)
    : List (String × Option Command) → List (String × Option Command)
  | [] => []
  | (name, none) :: rest => (name, none) :: describeEntries key description rest
  | (name, some command) :: rest =>
    (name, some (describeCommand key description command))
      :: describeEntries key description rest

end

/-- Describes the command of a name, under all the names it has. -/
def Table.describe (table : Table) (name description : String) : Option DefineError × Table :=
  match table.lookup name with
  | none => (some (.unknown name), table)
  | some none => (some .noCommand, table)
  | some (some command) => (none, describeEntries command.key description table)

/-- The request for the usage text. -/
def usageRequest : String := "usage"

/-- The command that prints the usage. -/
def helpCommand : Command :=
  { key := "-h"
    function := some ([], .quit usageRequest)
    description := "print this usage"
    aliases := ["help", "-help", "--help"] }

/-- The table every program starts from. -/
def Table.initial : Table :=
  (Table.define [] "-h" (some helpCommand)).2

/-- The kinds of flag. -/
inductive FlagKind where
  /-- Takes an argument; the name with a dot behind it goes back to the start. -/
  | setting (kind : Kind)
  /-- On after its name, off after its name with an exclamation mark in front. -/
  | switch
  /-- Counts how often it is given. -/
  | counter
  /-- Collects the arguments it is given. -/
  | collection (kind : Kind)
  deriving Inhabited

/-- The value a flag starts with. -/
def FlagKind.initial : FlagKind → FlagValue
  | setting kind => .single kind.zero
  | switch => .single (.bool false)
  | counter => .count 0
  | collection _ => .collected []

/-- The commands that belong to a flag. -/
def FlagKind.commands (name : String) : FlagKind → List (String × List Kind × FlagChange)
  | setting kind =>
    [(name, [kind], .store name), (name ++ ".", [], .assign name kind.zero)]
  | switch =>
    [(name, [], .assign name (.bool true)), ("!" ++ name, [], .assign name (.bool false))]
  | counter => [(name, [], .increment name)]
  | collection kind => [(name, [kind], .collect name)]

/-- Registers commands that change flags, up to the first whose name is taken. -/
def Table.defineChanges
    : List (String × List Kind × FlagChange) → Table → Option DefineError × Table
  | [], table => (none, table)
  | (name, kinds, change) :: rest, table =>
    let command : Command := { key := name, function := some (kinds, .flag change) }
    match Table.define table name (some command) with
    | (none, table) => defineChanges rest table
    | (some error, table) => (some error, table)

/-- Defines a flag: its commands and, if all of them could be registered, its value. -/
def defineFlag (name : String) (kind : FlagKind) (table : Table) (flags : Flags)
    : Option DefineError × Table × Flags :=
  match Table.defineChanges (kind.commands name) table with
  | (none, table) => (none, table, flags.declare name kind.initial)
  | (some error, table) => (some error, table, flags)

end TapeMachine.CommandLine
