import TapeMachine.Log.Value

/-!
Log records and the loggers that turn them into lines. A logger leaves out records below its
level, puts the attributes it was given in front of those of a record, and prefixes keys with the
groups that are open.
-/

namespace TapeMachine.Log

/-- How much a record matters. -/
inductive Level where
  | debug
  | info
  | warn
  | error
  deriving DecidableEq, Inhabited

namespace Level

/-- The order of levels. -/
def rank : Level → Nat
  | debug => 0
  | info => 1
  | warn => 2
  | error => 3

/-- The name of a level in a line. -/
def name : Level → String
  | debug => "DEBUG"
  | info => "INFO"
  | warn => "WARN"
  | error => "ERROR"

/-- The level below which a program is silent: the one that was chosen, or debug as soon as
somebody asked for details.
-/
def effective (chosen : Level) (verbosity : Int) : Level :=
  if 0 < verbosity then debug else chosen

end Level

/-- Something worth recording. -/
structure Record where
  level : Level
  message : String
  attributes : List Attribute := []
  /-- The span in which it happened. -/
  span : Option String := none
  deriving Inhabited

/-- An attribute and the groups that were open where it was given, each with a point behind it. -/
structure ScopedAttribute where
  scope : String
  entry : Attribute
  deriving Inhabited

/-- Writes records as lines. -/
structure Logger where
  threshold : Level := .warn
  /-- The open groups, the outermost first. -/
  groups : List String := []
  /-- The attributes of every record. -/
  attributes : List ScopedAttribute := []
  deriving Inhabited

namespace Logger

/-- Records of a level are written. -/
def enabled (logger : Logger) (level : Level) : Bool :=
  logger.threshold.rank ≤ level.rank

/-- The attribute under the groups that are open. -/
def qualify (logger : Logger) (entry : Attribute) : ScopedAttribute :=
  { scope := String.join (logger.groups.map (· ++ ".")), entry }

/-- The logger that adds attributes to every record. -/
def withAttributes (logger : Logger) (attributes : List Attribute) : Logger :=
  let kept := attributes.filter (!·.isVoid)
  { logger with attributes := logger.attributes ++ kept.map logger.qualify }

/-- The logger that opens a group; a group without a name changes nothing. -/
def withGroup (logger : Logger) (name : String) : Logger :=
  if name.isEmpty then logger else { logger with groups := logger.groups ++ [name] }

/-- The line of a record, the span coming last. -/
def line (logger : Logger) (record : Record) : String :=
  let span := record.span.toList.map fun name => { key := "span", value := .text name : Attribute }
  let own := (record.attributes.filter (!·.isVoid) ++ span).map logger.qualify
  let fields := ("level=" ++ record.level.name) :: ("msg=" ++ field record.message)
    :: (logger.attributes ++ own).map fun given => given.entry.render given.scope
  " ".intercalate fields

/-- The line of a record, if the logger writes records of its level. -/
def line? (logger : Logger) (record : Record) : Option String :=
  if logger.enabled record.level then some (logger.line record) else none

end Logger

end TapeMachine.Log
