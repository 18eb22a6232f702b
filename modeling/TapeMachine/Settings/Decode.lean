import TapeMachine.Settings.Value

/-!
Taking data out of a value. A value that only describes data gives nothing, except where nothing
is an answer too.
-/

namespace TapeMachine.Settings

/-- The shape in which a datum is wanted. -/
inductive Shape where
  | int (low high : Int)
  | float
  | text
  | bool
  | optional (shape : Shape)
  | list (element : Shape)
  deriving Inhabited

/-- A datum taken out of a value. -/
inductive Datum where
  | int (value : Int)
  | float (value : Float)
  | text (value : String)
  | bool (value : Bool)
  | absent
  | present (value : Datum)
  | list (values : List Datum)
  deriving Inhabited

namespace Shape

/-- An integer of 64 bits. -/
def word : Shape := .int (-0x8000000000000000) 0x7fffffffffffffff

/-- The datum that stands for nothing. -/
def blank : Shape → Datum
  | .int .. => .int 0
  | .float => .float 0
  | .text => .text ""
  | .bool => .bool false
  | .optional _ => .absent
  | .list _ => .list []

end Shape

namespace Value

/-- A value is there but is no datum, or is the datum that stands for nothing. -/
def isVacant : Value → Bool
  | .scalar (.atom .null) => true
  | .scalar (.described ..) => true
  | .choice .. => true
  | .unknown => true
  | .never => true
  | _ => false

/-- The datum of the wanted shape, if the value has it. -/
def decode? : Shape → Value → Option Datum
  | .int low high, value =>
    match value.settled with
    | .scalar (.atom (.number number)) =>
      if number.isInteger && decide (low ≤ number.digits) && decide (number.digits ≤ high) then
        some (.int number.digits)
      else none
    | _ => none
  | .float, value =>
    match value.settled with
    | .scalar (.atom (.number number)) => number.toFloat?.map .float
    | _ => none
  | .text, value =>
    match value.settled with
    | .scalar (.atom (.text text)) => some (.text text)
    | _ => none
  | .bool, value =>
    match value.settled with
    | .scalar (.atom (.bool bool)) => some (.bool bool)
    | _ => none
  | .optional shape, value =>
    if value.settled.isVacant then some .absent else (value.decode? shape).map .present
  | .list element, value =>
    if value.settled.isVacant then some (.list [])
    else
      match value.settled with
      | .list items _ => (items.mapM (Value.decode? element)).map .list
      | _ => none

end Value

end TapeMachine.Settings
