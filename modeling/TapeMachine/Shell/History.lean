import TapeMachine.Shell.Draft

/-!
The lines that were typed before. Going through them, one can change them; the changes are kept
until a line is entered.
-/

namespace TapeMachine.Shell

/-- A line of the history. -/
structure PastLine where
  /-- The line as it was entered. -/
  source : List Char := []
  /-- The line as it was changed. -/
  draft : Draft := {}
  /-- The round in which it was changed last. -/
  round : Nat := 0
  deriving DecidableEq, Inhabited

/-- The lines that were typed before, and the one that is typed now. -/
structure History where
  lines : Array PastLine := #[]
  /-- Which line is shown. -/
  current : Option Nat := none
  /-- Rounds are counted by the lines that were entered or given up. -/
  round : Nat := 0
  deriving Inhabited

namespace History

/-- How many lines are kept. -/
def mostLines : Nat := 500

/-- What is shown of a line: changes count only in the round in which they were made. -/
def shown (history : History) (line : PastLine) : List Char :=
  if line.round = history.round then line.draft.chars else line.source

/-- Forgets the oldest lines if there are too many. -/
def compact (history : History) : History :=
  let excess := history.lines.size - mostLines
  if excess = 0 then history
  else
    { history with
      lines := history.lines.extract excess history.lines.size
      current := history.current.map (· - excess) }

/-- Adds a line and shows it. -/
def push (history : History) (line : PastLine) : History :=
  { history with lines := history.lines.push line, current := some history.lines.size }

/-- Changes the line at a place. -/
def change (history : History) (place : Nat) (change : PastLine → PastLine) : History :=
  { history with lines := history.lines.modify place change }.compact

/-- Takes note of the line as it is now. -/
def note (history : History) (draft : Draft) : History :=
  match history.current with
  | none => (history.push { source := draft.chars }).compact
  | some place => history.change place fun line => { line with draft, round := history.round }

/-- Shows the last line. -/
def toLast (history : History) : History :=
  let size := history.lines.size
  { history with current := if size = 0 then none else some (size - 1) }

/-- The next round begins. -/
def nextRound (history : History) : History := { history with round := history.round + 1 }

/-- Begins anew with the last line, which becomes empty. -/
def clearLast (history : History) : History :=
  let history := history.toLast
  { history with
    lines := history.lines.modify (history.lines.size - 1) fun line =>
      { line with source := [], draft := {} } }.nextRound

/-- A line is entered. One that is empty, or the same as the one before, is not kept. -/
def enter (history : History) (chars : List Char) : History :=
  let size := history.lines.size
  let isRepeated := 2 ≤ size && (history.lines[size - 2]?.map (·.source)) == some chars
  if isRepeated || (chars.isEmpty && size ≠ 0) then history.clearLast
  else
    let history := history.toLast
    let kept := match history.current with
      | none => (history.push { source := chars }).compact
      | some place =>
        history.change place fun line => { line with source := chars, round := history.round }
    kept.nextRound.push {}

/-- A line is given up. -/
def giveUp (history : History) : History := history.nextRound.toLast

/-- Goes to another line and shows it, if it is there. -/
def goTo? (history : History) (place : Option Nat) : Option (List Char × History) :=
  match place with
  | some place =>
    (history.lines[place]?).map fun line =>
      (history.shown line, { history with current := some place })
  | none => none

/-- Goes to the line before. -/
def previous? (history : History) : Option (List Char × History) :=
  history.goTo? (history.current.bind fun place => if place = 0 then none else some (place - 1))

/-- Goes to the line behind. -/
def next? (history : History) : Option (List Char × History) :=
  history.goTo? (history.current.map (· + 1))

end History

end TapeMachine.Shell
