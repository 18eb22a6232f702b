import TapeMachine.Settings.FieldName
import TapeMachine.Settings.Scalar

/-!
The values of the settings language when everything in them has been worked out. A value may be a
datum or a description that data can meet: a kind, a bound, a list or record whose parts are such,
or a choice.
-/

namespace TapeMachine.Settings

/-- A value: a datum or a description of data. -/
inductive Value where
  | scalar (value : Scalar)
  /-- A list, to which more elements may be added if it is open. -/
  | list (items : List Value) (isOpen : Bool)
  /-- A record, of which more may come to be known unless it is complete. -/
  | record (fields : List (FieldName × Value)) (isComplete : Bool)
  /-- One of several values, of which some are preferred. -/
  | choice (options : List Value) (preferred : List Value)
  /-- A value that hangs on one that is not known yet. -/
  | unknown
  /-- A value that nothing meets. -/
  | never
  deriving Inhabited

namespace Value

/-- The value of an atom. -/
def atom (value : Atom) : Value := .scalar (.atom value)

mutual

/-- Two values are the same in all their parts. -/
def isSame : Value → Value → Bool
  | .scalar (.atom x), .scalar (.atom y) => x.isSame y
  | .scalar x, .scalar y => x == y
  | .list xs xOpen, .list ys yOpen => xOpen == yOpen && areSame xs ys
  | .record xs true, .record ys true => xs.length == ys.length && areFieldsOf xs ys
  | .choice xs px, .choice ys py => areSame xs ys && areSame px py
  | _, _ => false

/-- The values of two lists are the same one by one. -/
def areSame : List Value → List Value → Bool
  | [], [] => true
  | x :: xs, y :: ys => isSame x y && areSame xs ys
  | _, _ => false

/-- Every field is among others with the same value. -/
def areFieldsOf : List (FieldName × Value) → List (FieldName × Value) → Bool
  | [], _ => true
  | (name, x) :: xs, ys =>
    (match ys.find? (·.1 == name) with
      | some (_, y) => isSame x y
      | none => false)
    && areFieldsOf xs ys

end

/-- The value that a choice with one preferred value stands for. -/
def settled : Value → Value
  | .choice options [value] => match value with
    | .choice .. => .choice options [value]
    | value => value
  | value => value

/-- The value is one, even if it hangs on something that is not known yet. -/
def isPossible : Value → Bool
  | .never => false
  | _ => true

/-- The value is known. -/
def isKnown : Value → Bool
  | .never => false
  | .unknown => false
  | .record _ isComplete => isComplete
  | _ => true

end Value

end TapeMachine.Settings
