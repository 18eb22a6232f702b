import TapeMachine.Decimal.Amount
import TapeMachine.Text.Utf8

/-!
The values of the debug shell and the dictionaries among them. Keys of a dictionary are compared
by value, an integer being equal to a floating-point number of the same size, and functions by
identity; values that can change cannot be keys.
-/

namespace TapeMachine.Shell

/-- A value of the shell. -/
inductive Value where
  | none
  | bool (value : Bool)
  | int (value : Int)
  | float (value : Float)
  | text (value : String)
  | bytes (content : List UInt8)
  | list (items : List Value)
  | tuple (items : List Value)
  | dict (entries : List (Value × Value))
  /-- A function by its name, and by the number that tells it from all others. -/
  | function (name : String) (identity : Nat)
  deriving Inhabited

mutual

/-- A value may be a key. -/
def Value.isKey : Value → Bool
  | .list _ => false
  | .dict _ => false
  | .tuple items => areKeys items
  | _ => true

/-- Several values may all be keys. -/
def areKeys : List Value → Bool
  | [] => true
  | value :: rest => value.isKey && areKeys rest

end

mutual

/-- Two keys are the same. -/
def Value.sameKey : Value → Value → Bool
  | .none, .none => true
  | .bool a, .bool b => a == b
  | .int a, .int b => a == b
  | .int a, .float b => Decimal.Amount.finite a == .ofFloat b
  | .float a, .int b => Decimal.Amount.ofFloat a == .finite b
  | .float a, .float b => Decimal.Amount.ofFloat a == .ofFloat b
  | .text a, .text b => a == b
  | .bytes a, .bytes b => a == b
  | .tuple a, .tuple b => sameKeys a b
  | .function _ a, .function _ b => a == b
  | _, _ => false

/-- Two lists of keys are the same, one by one. -/
def sameKeys : List Value → List Value → Bool
  | [], [] => true
  | a :: as, b :: bs => a.sameKey b && sameKeys as bs
  | _, _ => false

end

/-- Puts a value under a key, in place of the one that is there. What cannot be a key is dropped. -/
def insertEntry (entries : List (Value × Value)) (key value : Value) : List (Value × Value) :=
  if !key.isKey then entries
  else if entries.any (·.1.sameKey key) then
    entries.map fun entry => if entry.1.sameKey key then (entry.1, value) else entry
  else entries ++ [(key, value)]

mutual

/-- How the shell writes a value. -/
def Value.render : Value → String
  | .none => "None"
  | .bool value => if value then "True" else "False"
  | .int value => toString value
  | .float value => renderFloat value
  | .text value => Text.quoted value
  | .bytes content => "b" ++ Text.quotedBytes content
  | .list items => "[" ++ ", ".intercalate (renderAll items) ++ "]"
  | .tuple [item] => "(" ++ item.render ++ ",)"
  | .tuple items => "(" ++ ", ".intercalate (renderAll items) ++ ")"
  | .dict entries => "\x7b" ++ ", ".intercalate (renderEntries entries) ++ "\x7d"
  | .function name _ => "<built-in function " ++ name ++ ">"

/-- How the shell writes several values. -/
def renderAll : List Value → List String
  | [] => []
  | value :: rest => value.render :: renderAll rest

/-- How the shell writes entries of a dictionary. -/
def renderEntries : List (Value × Value) → List String
  | [] => []
  | (key, value) :: rest => (key.render ++ ": " ++ value.render) :: renderEntries rest

/-- A floating-point number always shows that it is one. -/
def renderFloat (value : Float) : String :=
  let plain := Decimal.text value
  if plain.all fun c => c.isDigit || c == '-' then plain ++ ".0" else plain

end

end TapeMachine.Shell
