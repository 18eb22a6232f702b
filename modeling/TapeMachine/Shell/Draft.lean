/-!
A line while it is typed, with a cursor in it.
-/

namespace TapeMachine.Shell

/-- A line while it is typed. -/
structure Draft where
  /-- The characters before the cursor, the last one first. -/
  before : List Char := []
  /-- The characters from the cursor on. -/
  behind : List Char := []
  /-- How far the cursor is beyond the end of the line, where only swapping can bring it. -/
  excess : Nat := 0
  deriving DecidableEq, Inhabited

namespace Draft

/-- The characters of the line. -/
def chars (draft : Draft) : List Char := draft.before.reverse ++ draft.behind

/-- Nothing is typed. -/
def isEmpty (draft : Draft) : Bool := draft.before.isEmpty && draft.behind.isEmpty

/-- A whole line with the cursor at its end. -/
def ofChars (chars : List Char) : Draft := { before := chars.reverse }

/-- Moves the cursor back by so many characters. -/
def moveBack (draft : Draft) (count : Nat) : Draft :=
  { before := draft.before.drop count
    behind := (draft.before.take count).reverse ++ draft.behind }

/-- Moves the cursor on by so many characters. -/
def moveOn (draft : Draft) (count : Nat) : Draft :=
  { before := (draft.behind.take count).reverse ++ draft.before
    behind := draft.behind.drop count }

/-- Moves the cursor to the beginning of the line. -/
def toStart (draft : Draft) : Draft := { behind := draft.chars }

/-- Moves the cursor to the end of the line. -/
def toEnd (draft : Draft) : Draft := { before := draft.behind.reverse ++ draft.before }

/-- Moves the cursor one place back. -/
def back (draft : Draft) : Draft :=
  if 0 < draft.excess then { draft with excess := draft.excess - 1 } else draft.moveBack 1

/-- Moves the cursor one place on. Beyond the end there is always one more place. -/
def forward (draft : Draft) : Draft :=
  if 0 < draft.excess then { draft with excess := draft.excess + 1 } else draft.moveOn 1

/-- Words are made of letters and digits. -/
def isWordChar (c : Char) : Bool := c.isAlphanum

/-- How far it is back to the beginning of a word that has something before it, given the
characters in front of the cursor, the last one first.
-/
def wordStartBefore? : List Char → Option Nat
  | c :: earlier :: rest =>
    if isWordChar c && !isWordChar earlier then some 1
    else (wordStartBefore? (earlier :: rest)).map (· + 1)
  | _ => none

/-- How far it is to the beginning of the next word. -/
def wordStartBehind? : List Char → Option Nat
  | c :: later :: rest =>
    if !isWordChar c && isWordChar later then some 1
    else (wordStartBehind? (later :: rest)).map (· + 1)
  | _ => none

/-- Moves the cursor back to the beginning of a word, or of the line. -/
def wordBack (draft : Draft) : Draft :=
  match wordStartBefore? draft.before with
  | some count => draft.moveBack count
  | none => draft.toStart

/-- Moves the cursor on to the beginning of a word, or to the end of the line. -/
def wordForward (draft : Draft) : Draft :=
  match wordStartBehind? draft.behind with
  | some count => draft.moveOn count
  | none => draft.toEnd

/-- Puts characters in at the cursor. -/
def insert (draft : Draft) (chars : List Char) : Draft :=
  { draft with before := chars.reverse ++ draft.before }

/-- Swaps the character at the cursor with the one before it, and moves on. At the beginning of
the line the first two characters are meant, at its end the last two. A line of one character stays
as it is, but the cursor moves.
-/
def transpose (draft : Draft) : Draft :=
  match draft.before, draft.behind with
  | [], [c] => { before := [c] }
  | [c], [] => { before := [c], excess := draft.excess + 1 }
  | [], first :: second :: rest => { before := [first, second], behind := rest }
  | last :: earlier :: rest, [] => { before := earlier :: last :: rest }
  | last :: rest, c :: later => { before := last :: c :: rest, behind := later }
  | [], [] => draft

/-- The stretch from the cursor to where the next word is about to begin, with all that follows if
there is no next word.
-/
def restOfWord (draft : Draft) : List Char :=
  let gap := (draft.behind.takeWhile (!isWordChar ·)).length
  match wordStartBehind? (draft.behind.drop gap) with
  | some count => draft.behind.take (gap + count - 1)
  | none => draft.behind

end Draft

end TapeMachine.Shell
