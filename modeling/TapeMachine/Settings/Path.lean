import TapeMachine.Settings.Grammar
import TapeMachine.Settings.Value

/-!
Paths into a value: field names and indices, written as an expression.
-/

namespace TapeMachine.Settings

/-- A step from a value to a part of it. -/
inductive Selector where
  | field (name : FieldName)
  | index (place : Int)
  deriving DecidableEq, Inhabited

namespace Selector

/-- The selector that a datum spells: a text a field, and an integer a place. -/
def ofAtom? : Atom → Option Selector
  | .text name => some (.field (.plain name))
  | .number value => if value.isInteger then some (.index value.digits) else none
  | _ => none

/-- The selectors that an expression spells. Hidden fields are out of reach. -/
def ofExpr? : Expr → Option (List Selector)
  | .reference name =>
    let field := FieldName.ofWord name
    if field.isHidden then none else some [.field field]
  | .atom value => (ofAtom? value).map ([·])
  | .select base name => do
    if name.isHidden then none
    return (← ofExpr? base) ++ [.field name]
  | .index base (.atom value) => do
    return (← ofExpr? base) ++ [← ofAtom? value]
  | _ => none

/-- The selectors that a text spells: the empty text spells none. -/
def ofText? (text : String) : Option (List Selector) :=
  if text.isEmpty then some [] else (Expr.parseBare text).bind ofExpr?

end Selector

/-- The part of a value that selectors lead to, if it is known. -/
def Value.get? : List Selector → Value → Option Value
  | [], value => if value.isKnown then some value else none
  | .field name :: rest, .record fields _ =>
    match fields.find? (·.1 == name) with
    | some (_, part) => part.get? rest
    | none => none
  | .index place :: rest, .list items _ =>
    if place < 0 then none else items[place.toNat]?.bind (Value.get? rest)
  | _ :: _, _ => none

end TapeMachine.Settings
