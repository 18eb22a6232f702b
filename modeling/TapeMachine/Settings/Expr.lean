import TapeMachine.Settings.FieldName
import TapeMachine.Settings.Scalar

/-!
The expressions of the settings language.
-/

namespace TapeMachine.Settings

/-- The operations that join two values. -/
inductive Operation where
  | either
  | both
  | or
  | and
  | equal
  | unequal
  | less
  | atMost
  | greater
  | atLeast
  | isMatch
  | isNoMatch
  | add
  | subtract
  | multiply
  | divide
  /-- Division of integers whose remainder is never negative, and that remainder. -/
  | div
  | mod
  /-- Division of integers toward zero, and its remainder. -/
  | quo
  | rem
  deriving DecidableEq, Inhabited

/-- The operations on one value. -/
inductive Sign where
  | plus
  | minus
  | not
  /-- An alternative that is preferred. -/
  | preferred
  /-- What stands in the relation to the value. -/
  | bound (relation : Relation)
  deriving DecidableEq, Inhabited

/-- Whether a field is there, or is described in case it is, or has to be there in the end. -/
inductive Presence where
  | present
  | optional
  | required
  deriving DecidableEq, Inhabited

mutual

/-- An expression of the settings language. -/
inductive Expr where
  | atom (value : Atom)
  | never
  /-- A name that is always known, or that of a field or value around the expression. -/
  | reference (name : String)
  | select (base : Expr) (name : FieldName)
  | index (base place : Expr)
  | slice (base : Expr) (low high : Option Expr)
  | call (function : Expr) (arguments : List Expr)
  | sign (sign : Sign) (operand : Expr)
  | join (operation : Operation) (left right : Expr)
  /-- A text, or bytes, with the values of expressions in it. -/
  | interpolation (isBytes : Bool) (parts : List Expr)
  /-- A list; values of the last part may follow its elements. -/
  | list (items : List Expr) (rest : Option Expr)
  | record (declarations : List Declaration)
  /-- What the body gives for all that the clauses pick out. -/
  | comprehension (clauses : List Clause) (body : Expr)
  /-- An expression under a name that stands for its value inside it. -/
  | aliased (name : String) (value : Expr)

/-- A declaration in a record. -/
inductive Declaration where
  /-- A field; its name is in scope inside the record unless it is in quotes. It may go under a
  second name.
  -/
  | field (name : FieldName) (inScope : Bool) (byname : Option String) (presence : Presence)
      (value : Expr)
  /-- A field whose name is worked out. -/
  | dynamic (name : Expr) (byname : Option String) (presence : Presence) (value : Expr)
  /-- What holds for all fields whose names meet a description. -/
  | pattern (byname : Option String) (name value : Expr)
  /-- All that is declared in another value. -/
  | embedded (value : Expr)
  /-- A name for a value, which is no field. -/
  | binding (name : String) (value : Expr)
  /-- More fields may be added even where the record is closed. -/
  | openEnd

/-- A clause that picks something out. -/
inductive Clause where
  /-- Every element of a value, with its place or name if that is asked for. -/
  | each (key : Option String) (element : String) (source : Expr)
  | condition (value : Expr)
  | binding (name : String) (value : Expr)

end

instance : Inhabited Expr := ⟨.never⟩

instance : Inhabited Declaration := ⟨.openEnd⟩

instance : Inhabited Clause := ⟨.condition .never⟩

end TapeMachine.Settings
