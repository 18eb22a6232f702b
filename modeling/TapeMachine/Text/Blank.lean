/-!
Blank characters (those with the Unicode property White_Space) and the words that remain when
blanks are cut off at both ends of a text.
-/

namespace TapeMachine.Text

/-- The character is a blank. -/
def isBlank (c : Char) : Bool :=
  let code := c.toNat
  (0x09 ≤ code && code ≤ 0x0d) || code == 0x20 || code == 0x85 || code == 0xa0 || code == 0x1680
    || (0x2000 ≤ code && code ≤ 0x200a) || code == 0x2028 || code == 0x2029 || code == 0x202f
    || code == 0x205f || code == 0x3000

/-- The text without the blanks at its two ends. -/
def trim (text : String) : String :=
  String.ofList ((text.toList.dropWhile isBlank).reverse.dropWhile isBlank).reverse

/-- The pieces of a text between blanks. -/
def words (chars : List Char) : List (List Char) :=
  let step (state : List (List Char) × List Char) (c : Char) : List (List Char) × List Char :=
    if isBlank c then
      if state.2.isEmpty then state else (state.2.reverse :: state.1, [])
    else (state.1, c :: state.2)
  let (done, last) := chars.foldl step ([], [])
  (if last.isEmpty then done else last.reverse :: done).reverse

end TapeMachine.Text
