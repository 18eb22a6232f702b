import TapeMachine.Shell.Token

/-!
Expressions and statements of the debug shell. Each keeps the places that can be named in a message
about it.
-/

namespace TapeMachine.Shell

/-- Operators with one operand. -/
inductive UnaryOperator where
  | plus | minus | invert | not
  deriving DecidableEq, Inhabited

/-- Operators with two operands. -/
inductive BinaryOperator where
  | or | and
  | equal | unequal | less | greater | atMost | atLeast | isIn | isNotIn
  | bitOr | bitXor | bitAnd | shiftLeft | shiftRight
  | minus | plus | times | modulo | divide | floorDivide
  deriving DecidableEq, Inhabited

/-- How an operator with one operand is written. -/
def UnaryOperator.symbol : UnaryOperator → String
  | .plus => "+"
  | .minus => "-"
  | .invert => "~"
  | .not => "not"

/-- How an operator with two operands is written. -/
def BinaryOperator.symbol : BinaryOperator → String
  | .or => "or"
  | .and => "and"
  | .equal => "=="
  | .unequal => "!="
  | .less => "<"
  | .greater => ">"
  | .atMost => "<="
  | .atLeast => ">="
  | .isIn => "in"
  | .isNotIn => "not in"
  | .bitOr => "|"
  | .bitXor => "^"
  | .bitAnd => "&"
  | .shiftLeft => "<<"
  | .shiftRight => ">>"
  | .minus => "-"
  | .plus => "+"
  | .times => "*"
  | .modulo => "%"
  | .divide => "/"
  | .floorDivide => "//"

/-- What an argument of a call is. -/
inductive ArgumentKind where
  | plain
  | named (place : Place) (name : String)
  /-- All items of a sequence. -/
  | spread (place : Place)
  /-- All entries of a dictionary. -/
  | spreadNamed (place : Place)
  deriving DecidableEq, Inhabited

/-- What a parameter of a function is. -/
inductive ParameterKind where
  | required (place : Place) (name : String)
  /-- A parameter with a default, whose sign of equality stands at a place. -/
  | optional (place : Place) (name : String) (sign : Place)
  /-- All parameters behind it go by name. -/
  | barrier (place : Place)
  /-- The arguments that are left. -/
  | rest (mark : Place) (place : Place) (name : String)
  /-- The named arguments that are left. -/
  | namedRest (mark : Place) (place : Place) (name : String)
  deriving DecidableEq, Inhabited

/-- What a clause of a comprehension is: a loop, or a condition. -/
inductive ClauseKind where
  | each (place : Place)
  | only
  deriving DecidableEq, Inhabited

/-- An expression. -/
inductive Expr where
  /-- Nothing is written. -/
  | omitted
  | name (place : Place) (text : String)
  | int (place : Place) (value : Int)
  | float (place : Place) (value : Float)
  | text (place : Place) (content : List UInt8)
  | bytes (place : Place) (content : List UInt8)
  | list (place : Place) (items : List Expr)
  | tuple (place : Place) (items : List Expr)
  | paren (place : Place) (inner : Expr)
  /-- Keys and values, with the places of the colons between them. -/
  | dict (place : Place) (entries : List (Place × Expr × Expr))
  /-- A list of values, or a dictionary of keys and values, that clauses give rise to. A clause has
  a target and a source, or nothing and a condition.
  -/
  | comprehension (place : Place) (isDict : Bool) (key : Expr) (colon : Place) (value : Expr)
      (clauses : List (ClauseKind × Expr × Expr))
  | unary (place : Place) (operator : UnaryOperator) (operand : Expr)
  | binary (place : Place) (operator : BinaryOperator) (left right : Expr)
  | conditional (condition yes no : Expr)
  | index (place : Place) (target key : Expr)
  | slice (place : Place) (target low high step : Expr)
  | member (place : Place) (target : Expr) (name : String)
  | call (place : Place) (function : Expr) (arguments : List (ArgumentKind × Expr))
  | lambda (place : Place) (parameters : List (ParameterKind × Expr)) (body : Expr)
  deriving Inhabited

/-- A parameter with its default, if it has one. -/
abbrev Parameter := ParameterKind × Expr

namespace Expr

/-- Where an expression begins. -/
def start : Expr → Place
  | omitted => {}
  | name place _ => place
  | int place _ => place
  | float place _ => place
  | text place _ => place
  | bytes place _ => place
  | list place _ => place
  | tuple place items =>
    match items with
    | first :: _ => first.start
    | [] => place
  | paren place _ => place
  | dict place _ => place
  | comprehension place _ _ _ _ _ => place
  | unary place _ _ => place
  | binary _ _ left _ => left.start
  | conditional _ yes _ => yes.start
  | index _ target _ => target.start
  | slice _ target _ _ _ => target.start
  | member _ target _ => target.start
  | call _ function _ => function.start
  | lambda place _ _ => place

/-- How a kind of expression that cannot be assigned to is called in a message. -/
def kindName : Expr → String
  | omitted => "nothing"
  | name _ _ => "ident"
  | int _ _ => "literal"
  | float _ _ => "literal"
  | text _ _ => "literal"
  | bytes _ _ => "literal"
  | list _ _ => "listexpr"
  | tuple _ _ => "tupleexpr"
  | paren _ _ => "parenexpr"
  | dict _ _ => "dictexpr"
  | comprehension _ _ _ _ _ _ => "comprehension"
  | unary _ _ _ => "unaryexpr"
  | binary _ _ _ _ => "binaryexpr"
  | conditional _ _ _ => "condexpr"
  | index _ _ _ => "indexexpr"
  | slice _ _ _ _ _ => "sliceexpr"
  | member _ _ _ => "dotexpr"
  | call _ _ _ => "callexpr"
  | lambda _ _ _ => "lambdaexpr"

/-- The expression within parentheses. -/
def unwrapped : Expr → Expr
  | paren _ inner => inner.unwrapped
  | expr => expr

end Expr

/-- An operand of a sum, with the place of the sign in front of it if it is not the first. -/
structure Summand where
  place : Place := {}
  operand : Expr
  deriving Inhabited

namespace Expr

/-- The operands of a sum, in front of further ones. -/
def summandsBefore (later : List Summand) : Expr → List Summand
  | paren _ inner => inner.summandsBefore later
  | binary place .plus left right => left.summandsBefore (⟨place, right.unwrapped⟩ :: later)
  | operand => ⟨{}, operand⟩ :: later

/-- The operands of a sum; sums on the left of others are taken apart. -/
def summands (expr : Expr) : List Summand := expr.summandsBefore []

/-- Two literals of the same kind joined into one. -/
def joined? : Expr → Expr → Option Expr
  | text place a, text _ b => some (text place (a ++ b))
  | bytes place a, bytes _ b => some (bytes place (a ++ b))
  | list place a, list _ b => some (list place (a ++ b))
  | tuple place a, tuple _ b => some (tuple place (a ++ b))
  | _, _ => none

end Expr

/-- The operands of a sum, with neighbours joined that are literals of the same kind: these are
added before anything else is.
-/
def Summand.joined (summands : List Summand) : List Summand :=
  let step (done : List Summand) (summand : Summand) : List Summand :=
    match done with
    | last :: others =>
      match last.operand.joined? summand.operand with
      | some whole => { last with operand := whole } :: others
      | none => summand :: done
    | [] => [summand]
  (summands.foldl step []).reverse

/-- Statements that only say where to go on. -/
inductive Branch where
  | leave | next | pass
  deriving DecidableEq, Inhabited

/-- How such a statement is written. -/
def Branch.word : Branch → String
  | .leave => "break"
  | .next => "continue"
  | .pass => "pass"

/-- A statement. -/
inductive Stmt where
  | value (expr : Expr)
  | assign (place : Place) (target source : Expr)
  /-- An assignment that combines the old value with another. -/
  | update (place : Place) (operator : BinaryOperator) (target source : Expr)
  | branch (place : Place) (kind : Branch)
  | choose (place : Place) (condition : Expr) (yes no : List Stmt)
  | each (place : Place) (targets source : Expr) (body : List Stmt)
  | loop (place : Place) (condition : Expr) (body : List Stmt)
  | define (place : Place) (namePlace : Place) (name : String) (parameters : List Parameter)
      (body : List Stmt)
  | giveBack (place : Place) (result : Expr)
  /-- Names from elsewhere: the names there, and the names here, with their places. -/
  | load (place : Place) (source : List UInt8)
      (names : List ((Place × String) × (Place × String)))
  deriving Inhabited

end TapeMachine.Shell
