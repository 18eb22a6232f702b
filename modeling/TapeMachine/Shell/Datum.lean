import TapeMachine.Shell.Value
import TapeMachine.Text.Capital

/-!
Values of the surrounding program and their images in the debug shell. Everything that is made of
numbers, texts, sequences, mappings and records has an image; channels and complex numbers, for
instance, have none.
-/

namespace TapeMachine.Shell

/-- A whole number of the surrounding program, by its width and by whether it has a sign. -/
inductive Whole where
  | int8 (value : Int8)
  | int16 (value : Int16)
  | int32 (value : Int32)
  | int64 (value : Int64)
  | uint8 (value : UInt8)
  | uint16 (value : UInt16)
  | uint32 (value : UInt32)
  | uint64 (value : UInt64)
  deriving DecidableEq, Inhabited

/-- The number that the shell reads. One with a sign is widened to the widest number with a sign,
any other one to the widest number without.
-/
def Whole.reading : Whole → Int
  | .int8 value => value.toInt64.toInt
  | .int16 value => value.toInt64.toInt
  | .int32 value => value.toInt64.toInt
  | .int64 value => value.toInt
  | .uint8 value => value.toUInt64.toNat
  | .uint16 value => value.toUInt64.toNat
  | .uint32 value => value.toUInt64.toNat
  | .uint64 value => value.toNat

/-- A value of the surrounding program. -/
inductive Datum where
  | nothing
  | bool (value : Bool)
  | int (value : Whole)
  | float (value : Float)
  | text (value : String)
  | bytes (content : List UInt8)
  | sequence (items : List Datum)
  | mapping (entries : List (Datum × Datum))
  /-- Named fields, of which those without a capital letter in front are private. -/
  | record (fields : List (String × Datum))
  | reference (target : Datum)
  /-- A reference that refers to nothing. -/
  | noReference
  /-- A function, numbered by the place where it stands: the shell gets a function of its own for
  each.
  -/
  | function (identity : Nat)
  /-- A value that is one of the shell already. -/
  | shell (value : Value)
  /-- A value that has no image, by the name of its type. -/
  | unsupported (typeName : String)
  deriving Inhabited

/-- A value of a type without an image was met. -/
structure Unsupported where
  typeName : String
  deriving DecidableEq, Inhabited

/-- What is reported about such a value. -/
def Unsupported.message (cause : Unsupported) : String :=
  "unsupported type for starlark: " ++ cause.typeName

/-- A field is shown. -/
def isPublic (name : String) : Bool :=
  match name.toList with
  | first :: _ => Text.isCapital first
  | [] => false

mutual

/-- The image of a value. -/
def Datum.toValue : Datum → Except Unsupported Value
  | .nothing => .ok .none
  | .bool value => .ok (.bool value)
  | .int value => .ok (.int value.reading)
  | .float value => .ok (.float value)
  | .text value => .ok (.text value)
  | .bytes content => .ok (.list (content.map fun byte => .int byte.toNat))
  | .sequence items => do return .list (← toValues items)
  | .mapping entries => do return .dict (← toEntries [] entries)
  | .record fields => do return .dict (← toFields [] fields)
  | .reference target => target.toValue
  | .noReference => .ok .none
  | .function identity => .ok (.function "" identity)
  | .shell value => .ok value
  | .unsupported typeName => .error ⟨typeName⟩

/-- The images of several values. -/
def toValues : List Datum → Except Unsupported (List Value)
  | [] => .ok []
  | item :: rest => do
    let value ← item.toValue
    return value :: (← toValues rest)

/-- A dictionary extended by the images of entries. -/
def toEntries (dict : List (Value × Value))
    : List (Datum × Datum) → Except Unsupported (List (Value × Value))
  | [] => .ok dict
  | (key, item) :: rest => do
    let key ← key.toValue
    let value ← item.toValue
    toEntries (insertEntry dict key value) rest

/-- A dictionary extended by the images of the public fields. -/
def toFields (dict : List (Value × Value))
    : List (String × Datum) → Except Unsupported (List (Value × Value))
  | [] => .ok dict
  | (name, item) :: rest =>
    if isPublic name then do
      let value ← item.toValue
      toFields (insertEntry dict (.text name) value) rest
    else toFields dict rest

end

/-- Named values. -/
abbrev Globals := List (String × Value)

/-- The images of named values. -/
def toGlobals : List (String × Datum) → Except Unsupported Globals
  | [] => .ok []
  | (name, item) :: rest => do
    let value ← item.toValue
    return (name, value) :: (← toGlobals rest)

end TapeMachine.Shell
