import TapeMachine.Shell.Course
import TapeMachine.Shell.Number
import TapeMachine.Text.Utf8

/-!
How things of the debug shell are written, and which of them count as true.
-/

namespace TapeMachine.Shell

/-- How a thing is written. Containers that hold themselves are cut short: `path` has the containers
around the thing. The second argument bounds how deep things are nested.
-/
def renderWithin (store : Array Cell) : Nat → List Nat → Object → String
  | 0, _, _ => "..."
  | fuel + 1, path, object =>
    let render := renderWithin store fuel
    match object with
    | .none => "None"
    | .bool value => if value then "True" else "False"
    | .int value => toString value
    | .float value => Number.text value
    | .text content => Text.quotedBytes content
    | .bytes content => "b" ++ Text.quotedBytes content
    | .tuple [item] => "(" ++ render path item ++ ",)"
    | .tuple items => "(" ++ ", ".intercalate (items.map (render path)) ++ ")"
    | .range start stop step =>
      if step ≠ 1 then s!"range({start}, {stop}, {step})"
      else if start ≠ 0 then s!"range({start}, {stop})"
      else s!"range({stop})"
    | .list address =>
      match store[address]? with
      | some (.list items _) =>
        if path.contains address then "[...]"
        else "[" ++ ", ".intercalate (items.toList.map (render (address :: path))) ++ "]"
      | _ => "[]"
    | .dict address =>
      match store[address]? with
      | some (.dict entries _) =>
        let entry (key value : Object) : String :=
          render path key ++ ": " ++ render (address :: path) value
        let inner :=
          if path.contains address then "..."
          else ", ".intercalate (entries.toList.map fun (key, value) => entry key value)
        "\x7b" ++ inner ++ "\x7d"
      | _ => "\x7b\x7d"
    | .set address =>
      match store[address]? with
      | some (.set items _) =>
        "set([" ++ ", ".intercalate (items.toList.map (render path)) ++ "])"
      | _ => "set([])"
    | .function _ name => "<function " ++ name ++ ">"
    | .builtin name => "<built-in function " ++ name ++ ">"
    | .probe _ => "<built-in function >"
    | .method name owner _ => "<built-in method " ++ name ++ " of " ++ owner.typeName ++ " value>"
    | .textBytes content asNumbers =>
      Text.quotedBytes content ++ if asNumbers then ".elem_ords()" else ".elems()"
    | .textChars content asNumbers =>
      Text.quotedBytes content ++ if asNumbers then ".codepoint_ords()" else ".codepoints()"
    | .byteNumbers content => "b" ++ Text.quotedBytes content ++ ".elems()"

/-- How deep things are written. -/
def renderDepth : Nat := 100000

/-- How a thing is written. -/
def Run.render (object : Object) : Run String :=
  return renderWithin (← get).store renderDepth [] object

/-- The bytes of a thing where a text stands for itself. -/
def Run.plainBytes (object : Object) : Run (List UInt8) := do
  match object with
  | .text content => return content
  | other => return Text.encode (← Run.render other).toList

/-- A thing counts as true. -/
def Run.truth (object : Object) : Run Bool := do
  match object with
  | .none => return false
  | .bool value => return value
  | .int value => return value ≠ 0
  | .float value => return value != 0
  | .text content => return !content.isEmpty
  | .bytes content => return !content.isEmpty
  | .tuple items => return !items.isEmpty
  | .range start stop step => return Object.rangeLength start stop step ≠ 0
  | .list address => return !(← Run.listItems address).isEmpty
  | .dict address => return !(← Run.dictEntries address).isEmpty
  | .set address => return !(← Run.setItems address).isEmpty
  | _ => return true

/-- How many items a thing has, if it has a number of items. -/
def Run.length? (object : Object) : Run (Option Nat) := do
  match object with
  | .text content => return some content.length
  | .bytes content => return some content.length
  | .tuple items => return some items.length
  | .range start stop step => return some (Object.rangeLength start stop step)
  | .list address => return some (← Run.listItems address).size
  | .dict address => return some (← Run.dictEntries address).size
  | .set address => return some (← Run.setItems address).size
  | .textBytes content _ => return some content.length
  | _ => return none

end TapeMachine.Shell
