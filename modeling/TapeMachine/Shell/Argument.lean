import TapeMachine.Shell.Access

/-!
Arguments of functions that are always there, and what such functions say about arguments that do
not fit.
-/

namespace TapeMachine.Shell

/-- The arguments of a call. -/
structure Arguments where
  positional : List Object := []
  named : List (List UInt8 × Object) := []
  deriving Inhabited

/-- What a parameter takes. -/
inductive Want where
  | anything | text | bool | int | callable | iterable
  deriving DecidableEq, Inhabited

/-- A thing can be gone through. -/
def Object.isIterable : Object → Bool
  | .tuple _ => true
  | .range _ _ _ => true
  | .list _ => true
  | .dict _ => true
  | .set _ => true
  | .textBytes _ _ => true
  | .textChars _ _ => true
  | .byteNumbers _ => true
  | _ => false

/-- Why a parameter does not take a thing. -/
def Want.refusal? (want : Want) (object : Object) : Option String :=
  let got (wanted : String) : Option String := some s!"got {object.typeName}, want {wanted}"
  match want with
  | .anything => none
  | .text =>
    match object with
    | .text _ => none
    | _ => got "string"
  | .bool =>
    match object with
    | .bool _ => none
    | _ => got "bool"
  | .int =>
    match object with
    | .int value =>
      if -0x8000000000000000 ≤ value && value < 0x8000000000000000 then none
      else some s!"{value} out of range (want value in signed 64-bit range)"
    | _ => got "int"
  | .callable => if object.isCallable then none else got "callable"
  | .iterable => if object.isIterable then none else got "iterable"

namespace Run

/-- Puts the name of a function in front of what goes wrong. -/
def blame {α : Type} (name : String) (action : Run α) : Run α :=
  tryCatch action fun failure =>
    match failure with
    | .raised message => raise (name ++ ": " ++ message)
    | other => throw other

end Run

namespace Arguments

/-- The arguments of a function whose parameters have no names, of which some may be missing at the
end.
-/
def unnamed (name : String) (arguments : Arguments) (least : Nat) (wants : List Want)
    : Run (List Object) := do
  let count := arguments.positional.length
  let most := wants.length
  if !arguments.named.isEmpty then Run.raise (name ++ ": unexpected keyword arguments")
  if count < least then
    let limit := if least < most then "at least " else ""
    Run.raise s!"{name}: got {count} arguments, want {limit}{least}"
  if most < count then
    let limit := if least < most then "at most " else ""
    Run.raise s!"{name}: got {count} arguments, want {limit}{most}"
  let numbered := (List.range count).zip (arguments.positional.zip wants)
  match numbered.findSome? fun (number, object, want) =>
      (want.refusal? object).map (number, ·) with
  | some (number, refusal) => Run.raise s!"{name}: for parameter {number + 1}: {refusal}"
  | none => return arguments.positional

/-- A parameter with a name. -/
structure Slot where
  name : String
  isOptional : Bool
  want : Want

/-- Assigns named arguments to parameters. -/
def assignNamed (name : String) (slots : List Slot)
    : List (List UInt8 × Object) → Array (Option Object) → Run (Array (Option Object))
  | [], found => return found
  | (key, value) :: rest, found => do
    let quoted := Text.quotedBytes key
    match slots.findIdx? fun slot => Text.encode slot.name.toList == key with
    | some place =>
      if (found.getD place none).isSome then
        Run.raise s!"{name}: got multiple values for keyword argument {quoted}"
      match (slots[place]?).bind fun slot => slot.want.refusal? value with
      | some refusal => Run.raise s!"{name}: for parameter {quoted}: {refusal}"
      | none => assignNamed name slots rest (found.setIfInBounds place (some value))
    | none =>
      let candidates := (slots.take ((slots.length + 1) / 2)).map (·.name)
      let hint := match Text.nearest? (String.ofList (Text.decode key)) candidates with
        | some meant => s!" (did you mean {meant}?)"
        | none => ""
      Run.raise s!"{name}: unexpected keyword argument {quoted}{hint}"

/-- The arguments of a function whose parameters have names. -/
def byName (name : String) (arguments : Arguments) (slots : List Slot)
    : Run (List (Option Object)) := do
  let given := arguments.positional
  if slots.length < given.length then
    Run.raise s!"{name}: got {given.length} arguments, want at most {slots.length}"
  for (object, slot) in given.zip slots do
    if let some refusal := slot.want.refusal? object then
      Run.raise s!"{name}: for parameter {slot.name}: {refusal}"
  let start := (given.map some ++ List.replicate (slots.length - given.length) none).toArray
  let found ← assignNamed name slots arguments.named start
  for (object, slot) in found.toList.zip slots do
    if object.isNone && !slot.isOptional then
      Run.raise s!"{name}: missing argument for {slot.name}"
  return found.toList

/-- The arguments of a function that says how many it takes in its own words. -/
def exactlyOne (name : String) (arguments : Arguments) (wanted : String) : Run Object := do
  if !arguments.named.isEmpty then Run.raise (name ++ " does not accept keyword arguments")
  match arguments.positional with
  | [object] => return object
  | others => Run.raise s!"{name}: got {others.length} arguments, want {wanted}"

/-- Refuses all arguments. -/
def none (name : String) (arguments : Arguments) : Run Unit := do
  let _ ← arguments.unnamed name 0 []

end Arguments

end TapeMachine.Shell
