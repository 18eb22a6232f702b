/-!
Cutting texts at separators.
-/

namespace TapeMachine.Text

/-- The pieces between separators. There is one more piece than there are separators. -/
def pieces (separator : Char) : List Char → List (List Char)
  | [] => [[]]
  | c :: rest =>
    if c = separator then [] :: pieces separator rest
    else
      match pieces separator rest with
      | piece :: others => (c :: piece) :: others
      | [] => [[c]]

/-- What stands before the first separator and what stands behind it, if there is one. -/
def cut (separator : Char) (chars : List Char) : List Char × Option (List Char) :=
  match chars.dropWhile (· ≠ separator) with
  | [] => (chars, none)
  | _ :: rest => (chars.takeWhile (· ≠ separator), some rest)

/-- What stands before the last separator and what stands behind it, if there is one. -/
def cutLast (separator : Char) (chars : List Char) : Option (List Char × List Char) :=
  match cut separator chars.reverse with
  | (_, none) => none
  | (last, some front) => some (front.reverse, last.reverse)

end TapeMachine.Text
