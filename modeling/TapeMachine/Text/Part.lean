/-!
Parts of texts, which may be lists of characters or of bytes.
-/

namespace TapeMachine.Text

variable {α : Type} [BEq α]

/-- Where a part first stands in a whole. -/
def findPart? (part : List α) : List α → Option Nat
  | [] => if part.isEmpty then some 0 else none
  | item :: rest =>
    if part.isPrefixOf (item :: rest) then some 0 else (findPart? part rest).map (· + 1)

/-- Where a part last stands in a whole. -/
def findLastPart? (part whole : List α) : Option Nat :=
  (findPart? part.reverse whole.reverse).map fun place => whole.length - place - part.length

/-- The pieces between parts that do not overlap, of which at most so many are cut off. -/
def piecesBetween (part : List α) : Nat → List α → List (List α)
  | 0, whole => [whole]
  | most + 1, whole =>
    match findPart? part whole with
    | some place => whole.take place :: piecesBetween part most (whole.drop (place + part.length))
    | none => [whole]

/-- Pieces with a part between them. -/
def joinedBy {α : Type} (part : List α) : List (List α) → List α
  | [] => []
  | [piece] => piece
  | piece :: rest => piece ++ part ++ joinedBy part rest

/-- A whole without another at its beginning. -/
def withoutStart (part whole : List α) : List α :=
  if part.isPrefixOf whole then whole.drop part.length else whole

/-- A whole without another at its end. -/
def withoutEnd (part whole : List α) : List α :=
  if part.isSuffixOf whole then whole.take (whole.length - part.length) else whole

end TapeMachine.Text
