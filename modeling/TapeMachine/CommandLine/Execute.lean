import TapeMachine.CommandLine.Command
import TapeMachine.Text.Blank

/-!
Executing a command line: from left to right, words that name commands are executed with the
arguments behind them, and the other words are positional arguments. Sub-commands are known from
the command that makes them known to the end of the line, and not in the next one.
-/

namespace TapeMachine.CommandLine

/-- Why a command line was given up. -/
inductive ExecuteError where
  /-- A word that looks like a command is none. -/
  | unknown (name : String)
  /-- An argument of a command does not fit. -/
  | badArgument (name : String) (cause : ArgumentError)
  /-- A function answered with an error. -/
  | failed (message : String)
  /-- A sub-command has the name of a command that is known already. -/
  | duplicateSub (parent sub : String)
  /-- A name stands for a missing command. -/
  | noCommand
  deriving DecidableEq, Inhabited

/-- The text of the error. -/
def ExecuteError.message : ExecuteError → String
  | unknown name => "unknown command: " ++ name
  | badArgument name cause => name ++ ": " ++ cause.message
  | failed message => message
  | duplicateSub parent sub => "duplicated sub command: " ++ parent ++ " " ++ sub
  | noCommand => DefineError.noCommand.message

/-- How a command line ended. -/
inductive Ending where
  /-- All words were used; these are the positional ones. -/
  | finished (positionals : List String)
  | failed (error : ExecuteError)
  /-- A command asked the program to end. -/
  | quit (reason : String)
  deriving DecidableEq, Inhabited

/-- What a command line did: the calls it made, the flags it left, how it ended, and the table that
the next command line starts with.
-/
structure Result where
  calls : List Call
  flags : Flags
  ending : Ending
  table : Table
  deriving Inhabited

/-- A word looks like a command, so it cannot be a positional argument. -/
def looksLikeCommand (name : String) : Bool :=
  name.isEmpty || name.startsWith "-"

/-- The tables while a command line is executed: the one that all command lines start with, and
the copy that is looked at instead once there is one.
-/
structure Tables where
  own : Table
  copy : Option Table := none
  deriving Inhabited

namespace Tables

/-- The table that names are looked up in. -/
def current (tables : Tables) : Table :=
  tables.copy.getD tables.own

/-- Makes a copy of the table that names are looked up in, and looks them up there. -/
def clone (tables : Tables) : Tables :=
  { tables with copy := some tables.current }

/-- Adds a name to the table that names are looked up in, which may be the one of all command
lines.
-/
def put (tables : Tables) (name : String) (command : Option Command) : Tables :=
  match tables.copy with
  | some table => { tables with copy := some (insertByName name command table) }
  | none => { tables with own := insertByName name command tables.own }

/-- Adds sub-commands one after another, up to the first whose name is taken. The sub-commands of a
command are in no order, so which of several taken names is reported is not determined; adding them
in the order of their names, as here, is one of the ways.
-/
def addSubs (parent : String)
    : List (String × Option Command) → Tables → Option ExecuteError × Tables
  | [], tables => (none, tables)
  | (name, sub) :: rest, tables =>
    if tables.current.contains name then (some (.duplicateSub parent name), tables)
    else addSubs parent rest (tables.put name sub)

/-- Makes the sub-commands of a command known, if it has any. -/
def activate (parent : String) (subs : List (String × Option Command)) (tables : Tables)
    : Option ExecuteError × Tables :=
  if subs.isEmpty then (none, tables) else addSubs parent subs tables.clone

end Tables

/-- How far the execution of a command line came. -/
structure Progress where
  tables : Tables
  /-- The words that were not used yet. -/
  words : List String
  flags : Flags
  /-- The calls that earlier command lines made. -/
  past : List Call := []
  calls : List Call := []
  positionals : List String := []
  deriving Inhabited

namespace Progress

/-- Makes the sub-commands of a command known. -/
def activate (p : Progress) (name : String) (command : Command) : Option Ending × Progress :=
  let (error, tables) := p.tables.activate name command.subs
  (error.map .failed, { p with tables })

/-- Calls a command with its arguments. -/
def call (p : Progress) (effect : Effect) (arguments : List Argument)
    : Option Ending × Progress :=
  match effect with
  | .outside label act =>
    let (flags, answer) := act (p.past ++ p.calls) p.flags arguments
    (answer.map fun message => .failed (.failed message),
      { p with flags, calls := p.calls ++ [⟨label, arguments⟩] })
  | .flag change => (none, { p with flags := change.apply arguments p.flags })
  | .quit reason => (some (.quit reason), p)

/-- Executes a command with the arguments that the next words spell. -/
def obey (p : Progress) (name : String) (command : Command) : Option Ending × Progress :=
  match command.function with
  | none => p.activate name command
  | some (kinds, effect) =>
    match takeArguments kinds p.words with
    | .error cause => (some (.failed (.badArgument name cause)), p)
    | .ok (arguments, words) =>
      match { p with words }.call effect arguments with
      | (some ending, p) => (some ending, p)
      | (none, p) => p.activate name command

/-- Uses the next word and the arguments that belong to it. -/
def round (p : Progress) : Option Ending × Progress :=
  match p.words with
  | [] => (some (.finished p.positionals), p)
  | word :: words =>
    let name := Text.trim word
    let p := { p with words }
    match p.tables.current.lookup name with
    | none =>
      if looksLikeCommand name then (some (.failed (.unknown name)), p)
      else (none, { p with positionals := p.positionals ++ [name] })
    | some none => (some (.failed .noCommand), p)
    | some (some command) => p.obey name command

theorem words_activate (p : Progress) (name : String) (command : Command)
    : (p.activate name command).2.words = p.words :=
  rfl

theorem words_call (p : Progress) (effect : Effect) (arguments : List Argument)
    : (p.call effect arguments).2.words = p.words := by
  cases effect <;> rfl

/-- Executing a command leaves no more words than there were. -/
theorem length_words_obey (p : Progress) (name : String) (command : Command)
    : (p.obey name command).2.words.length ≤ p.words.length := by
  unfold obey
  split
  · exact Nat.le_refl _
  · split
    · exact Nat.le_refl _
    · rename_i taken
      have fewer := length_of_takeArguments taken
      split
      · rename_i called
        rwa [← congrArg (·.2.words) called, words_call]
      · rename_i called
        rwa [words_activate, ← congrArg (·.2.words) called, words_call]

/-- A round that does not end the line uses a word. -/
theorem length_words_round {p next : Progress} (goesOn : p.round = (none, next))
    : next.words.length < p.words.length := by
  unfold round at goesOn
  split at goesOn
  · cases goesOn
  · rename_i word words same
    rw [same, List.length_cons]
    dsimp only at goesOn
    split at goesOn
    · split at goesOn
      · cases goesOn
      · cases goesOn
        exact Nat.lt_succ_self _
    · cases goesOn
    · rename_i command _
      have fewer := length_words_obey { p with words } (Text.trim word) command
      rw [goesOn] at fewer
      exact Nat.lt_succ_of_le fewer

/-- Goes on to the end of the line. -/
def finish (p : Progress) : Ending × Progress :=
  match went : p.round with
  | (some ending, next) => (ending, next)
  | (none, next) =>
    have : next.words.length < p.words.length := length_words_round went
    next.finish
termination_by p.words.length

end Progress

/-- Nothing of a command line is executed yet. -/
def Progress.start (past : List Call) (table : Table) (words : List String) (flags : Flags)
    : Progress :=
  { tables := { own := table }, words, flags, past }

/-- Executes the words of a command line after others that made some calls. -/
def executeAfter (past : List Call) (table : Table) (words : List String) (flags : Flags)
    : Result :=
  let (ending, last) := (Progress.start past table words flags).finish
  { calls := last.calls, flags := last.flags, ending, table := last.tables.own }

/-- Executes the words of a command line. -/
def execute (table : Table) (words : List String) (flags : Flags) : Result :=
  executeAfter [] table words flags

end TapeMachine.CommandLine
