import TapeMachine.CommandLine.Execute
import TapeMachine.CommandLine.Usage
import TapeMachine.Settings.Effective
import TapeMachine.Settings.Schema

/-!
The options of the program: the commands of its command line, and what they leave behind.
-/

namespace TapeMachine.Session

open CommandLine

/-- The flags of the program with their descriptions. -/
def flagTable : List (String × FlagKind × String) :=
  [("-config", .collection .text, ""),
    ("-d", .counter, ""),
    ("-depth", .setting (.int .plain), "loop-start stack capacity"),
    ("-max-cells", .setting (.int .plain), "cells per half tape, negative for unbounded"),
    ("-eof", .setting .text, "cell value at end of input: unchanged, zero or max"),
    ("-tap", .switch,
      "stop at '#' and open a starlark debug shell; the shell reads stdin too, so pipe program "
        ++ "input from a file"),
    ("-snapshot", .setting .text, "write the final machine state to a file"),
    ("-restore", .setting .text, "resume from a snapshot of the same program")]

/-- The flag that holds the level chosen for the log. No word on the command line has its name. -/
def levelFlag : String := "log level"

/-- The request for the schema. -/
def schemaRequest : String := "schema"

/-- The levels that can be chosen, by the word in the name of their command. -/
def levelNames : List (String × Log.Level) :=
  [("debug", .debug), ("info", .info), ("warn", .warn), ("error", .error)]

/-- The commands of the program that are not flags. -/
def plainCommands : List Command :=
  { key := "-schema"
    function := some ([], .quit schemaRequest)
    description := "print the config schema" }
    :: levelNames.map fun (name, _) =>
      { key := "-log-" ++ name
        function := some ([], .flag (.assign levelFlag (.text name)))
        description := "set log level to " ++ name }

/-- The commands of the program and its flags before any of them is given. -/
def commands : Table × Flags :=
  let start : Table × Flags :=
    (Table.initial, ({} : Flags).declare levelFlag (.single (.text "warn")))
  let flagged := flagTable.foldl (fun (table, flags) (name, kind, description) =>
    let (_, table, flags) := defineFlag name kind table flags
    if description.isEmpty then (table, flags)
    else ((table.describe name description).2, flags)) start
  plainCommands.foldl (fun (table, flags) command =>
    ((table.define command.key (some command)).2, flags)) flagged

/-- What a command line asks for. -/
structure Options where
  machine : Settings.MachineFlags := {}
  /-- The level chosen for the log. -/
  level : Log.Level := .warn
  /-- Paths of documents with settings. -/
  documents : List String := []
  /-- Where to leave a snapshot; nowhere if empty. -/
  snapshot : String := ""
  /-- The snapshot to start from; none if empty. -/
  restore : String := ""
  deriving Inhabited

namespace Options

/-- The options that flags spell. -/
def ofFlags (flags : Flags) : Options :=
  { machine :=
      { maxDepth := flags.int "-depth"
        maxCells := flags.int "-max-cells"
        endOfInput := flags.text "-eof"
        breakpoints := flags.isOn "-tap"
        verbosity := flags.int "-d" }
    level := (levelNames.lookup (flags.text levelFlag)).getD .warn
    documents := flags.texts "-config"
    snapshot := flags.text "-snapshot"
    restore := flags.text "-restore" }

/-- The logger that the options ask for. -/
def logger (options : Options) : Log.Logger :=
  { threshold := options.level.effective options.machine.verbosity }

end Options

/-- What the words of a command line come to. -/
inductive Request where
  /-- The program is to run with these options and positional words. -/
  | run (options : Options) (words : List String)
  /-- The program is to print a text to its output and end. -/
  | print (text : String)
  /-- The program is to explain itself and end. -/
  | explain
  /-- The words make no sense. -/
  | reject (error : ExecuteError)
  deriving Inhabited

/-- Reads a command line. -/
def Request.ofWords (words : List String) : Request :=
  let (table, flags) := commands
  let result := execute table words flags
  match result.ending with
  | .finished positionals => .run (.ofFlags result.flags) positionals
  | .failed error => .reject error
  | .quit reason => if reason = schemaRequest then .print Settings.schema else .explain

/-- The text that explains the commands of the program. -/
def usage : String := commands.1.usage

end TapeMachine.Session
