import TapeMachine.Log.Logger

/-!
Spans: named stretches of work. A span has a random id; records and errors that belong to it carry
that id.
-/

namespace TapeMachine.Log.Span

/-- The number of characters of an id. -/
def idLength : Nat := 26

/-- The characters of which ids are made. -/
def idAlphabet : List Char := "ABCDEFGHIJKLMNOPQRSTUVWXYZ234567".toList

/-- The record that opens a span. -/
def opening (parent : Option String) (id what : String) : Record :=
  { level := .debug
    message := "new span: " ++ what
    attributes := parent.toList.map fun name => ⟨"parent", .text name⟩
    span := some id }

/-- An error text that names the span it happened in. -/
def wrap (span : Option String) (error : String) : String :=
  match span with
  | none => error
  | some id => error ++ "\nspan: " ++ id

end TapeMachine.Log.Span
