import TapeMachine.Text.Case
import TapeMachine.Text.Utf8

/-!
The word that was probably meant by one that is misspelt: the nearest of several by the number of
letters that have to be changed.
-/

namespace TapeMachine.Text

/-- One row of the table of distances: that of a prefix with one more byte, from the row before. The
second argument is the entry to the left, the third the one above that.
-/
def distanceRow {α : Type} [DecidableEq α] (byte : α) : Nat → Nat → List α → List Nat → List Nat
  | left, corner, other :: others, above :: row =>
    let entry := min (corner + if byte = other then 0 else 1) (min (left + 1) (above + 1))
    entry :: distanceRow byte entry above others row
  | _, _, _, _ => []

/-- How many items must be put in, left out or replaced to make one list into another. -/
def distance {α : Type} [DecidableEq α] (word other : List α) : Nat :=
  let start := List.range (other.length + 1)
  let last := word.foldl (fun row byte =>
    match row with
    | corner :: rest => (corner + 1) :: distanceRow byte (corner + 1) corner other rest
    | [] => []) start
  last.getLastD 0

/-- A word for comparison: underscores and case do not count. -/
def folded (word : String) : List UInt8 :=
  encode ((word.toList.filter (· ≠ '_')).map lowerCase)

/-- The word that is meant by another, if one of them is near: less than half of the letters may be
wrong. Of several that are equally near the first is meant.
-/
def nearest? (word : String) (candidates : List String) : Option String :=
  let goal := folded word
  let limit := (goal.length + 1) / 2
  (candidates.foldl (fun (best : Nat × Option String) candidate =>
    let found := distance goal (folded candidate)
    if found < best.1 then (found, some candidate) else best) (limit, none)).2

end TapeMachine.Text
