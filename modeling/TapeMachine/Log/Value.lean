import TapeMachine.Decimal.Shortest
import TapeMachine.Text.Blank
import TapeMachine.Text.Quoted

/-!
The values that log records carry, and the text of one. A text that could be misread in a line of
`key=value` pairs is put in quotes.
-/

namespace TapeMachine.Log

/-- A value of an attribute. -/
inductive Value where
  | null
  | bool (value : Bool)
  | int (value : Int)
  | float (value : Float)
  | text (value : String)
  | list (values : List Value)
  /-- Values under names, in the order of the names. -/
  | mapping (entries : List (String × Value))
  deriving Inhabited

mutual

/-- The bare text of a value. -/
def Value.bare : Value → String
  | .null => "<nil>"
  | .bool value => if value then "true" else "false"
  | .int value => toString value
  | .float value => Decimal.text value
  | .text value => value
  | .list values => "[" ++ " ".intercalate (bareAll values) ++ "]"
  | .mapping entries => "map[" ++ " ".intercalate (bareEntries entries) ++ "]"

/-- The bare texts of several values. -/
def bareAll : List Value → List String
  | [] => []
  | value :: rest => value.bare :: bareAll rest

/-- The bare texts of several values behind their names. -/
def bareEntries : List (String × Value) → List String
  | [] => []
  | (name, value) :: rest => (name ++ ":" ++ value.bare) :: bareEntries rest

end

/-- A character that makes quotes necessary. -/
def needsQuotes (c : Char) : Bool :=
  if c.toNat < 0x80 then c.toNat < 0x20 || c == ' ' || c == '=' || c == '"'
  else c.toNat == 0xfffd || Text.isBlank c || !Text.isPrintable c

/-- A text could be misread. -/
def isMisleading (text : String) : Bool := text.isEmpty || text.any needsQuotes

/-- A key or the text of a value, in quotes where it could be misread. -/
def field (text : String) : String :=
  if isMisleading text then Text.quoted text else text

/-- A value with the key it is recorded under. -/
structure Attribute where
  key : String
  value : Value
  deriving Inhabited

namespace Attribute

/-- The key of a value that was given without one. -/
def missingKey : String := "!BADKEY"

/-- An attribute without a key and without a value is not recorded. -/
def isVoid (entry : Attribute) : Bool :=
  entry.key.isEmpty && (match entry.value with | .null => true | _ => false)

/-- The attributes that a list of keys and values spells: a text is the key of what follows it, and
whatever stands where a key should be is a value without one.
-/
def ofArguments : List Value → List Attribute
  | .text key :: value :: rest => { key, value } :: ofArguments rest
  | value :: rest => { key := missingKey, value } :: ofArguments rest
  | [] => []

/-- The key as it stands in a line behind the groups that are open, each with a point behind it. If
the groups or the key could be misread, all is put in quotes.
-/
def fullKey (scope : String) (entry : Attribute) : String :=
  if scope.isEmpty then field entry.key
  else if isMisleading scope || isMisleading entry.key then Text.quoted (scope ++ entry.key)
  else scope ++ entry.key

/-- The attribute as it stands in a line. -/
def render (scope : String) (entry : Attribute) : String :=
  entry.fullKey scope ++ "=" ++ field entry.value.bare

end Attribute

end TapeMachine.Log
