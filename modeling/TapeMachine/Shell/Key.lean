/-!
The keys of the line editor in the debug shell. Most characters stand for themselves; control
characters, and sequences that begin with an escape character, are commands to the editor.
-/

namespace TapeMachine.Shell

/-- A key of the line editor. -/
inductive Key where
  /-- Types a character. -/
  | character (c : Char)
  | back | forward | wordBack | wordForward | lineStart | lineEnd
  /-- Takes out the character before the cursor. -/
  | backspace
  /-- Takes out the character at the cursor; ends the input if nothing is typed. -/
  | delete
  /-- These take out a longer stretch, which can be put in again. -/
  | deleteWord | killWordBack | killFront | killRest
  | yank
  /-- Swaps two characters. -/
  | transpose
  /-- An earlier line, or a later one. -/
  | previous | next
  | search
  | clearScreen
  | enter
  | interrupt
  /-- There is nothing more to read. -/
  | endOfInput
  /-- Does nothing. -/
  | idle
  deriving DecidableEq, Inhabited

namespace Key

/-- The key of a character that is not part of a sequence. -/
def ofChar (c : Char) : Key :=
  match c.toNat with
  | 0x00 => endOfInput
  | 0x01 => lineStart
  | 0x02 => back
  | 0x03 => interrupt
  | 0x04 => delete
  | 0x05 => lineEnd
  | 0x06 => forward
  | 0x07 => idle
  | 0x08 => backspace
  | 0x0a => enter
  | 0x0b => killRest
  | 0x0c => clearScreen
  | 0x0d => enter
  | 0x0e => next
  | 0x10 => previous
  | 0x12 => search
  | 0x13 => search
  | 0x14 => transpose
  | 0x15 => killFront
  | 0x17 => killWordBack
  | 0x19 => yank
  | 0x1a => idle
  | 0x7f => backspace
  | _ => character c

/-- The key of a sequence `ESC [ digits letter`, if there is one. -/
def ofSequence? (digits : List Char) (letter : Char) : Option Key :=
  match letter with
  | 'A' => some previous
  | 'B' => some next
  | 'C' => some forward
  | 'D' => some back
  | 'F' => some lineEnd
  | 'H' => some lineStart
  | '~' => if digits = ['3'] then some delete else none
  | _ => none

/-- What was read of a sequence so far. -/
inductive Pending where
  | nothing
  /-- An escape character. -/
  | escape
  /-- An escape character and the letter `O`. -/
  | letter
  /-- An escape character, an opening bracket, and digits, the last one first. -/
  | bracket (digits : List Char)
  deriving DecidableEq, Inhabited

namespace Pending

/-- Reads a character outside of any sequence. -/
def plain (c : Char) : Pending × List Key :=
  if c = '\x1b' then (escape, []) else (nothing, [ofChar c])

/-- Reads a character behind an escape character. Without a meaning there, it stands for itself. -/
def escaped (c : Char) : Pending × List Key :=
  match c with
  | '[' => (bracket [], [])
  | 'O' => (letter, [])
  | 'b' => (nothing, [wordBack])
  | 'f' => (nothing, [wordForward])
  | 'd' => (nothing, [deleteWord])
  | '\x7f' => (nothing, [killWordBack])
  | '\x14' => (nothing, [character '\ufffd'])
  | c => plain c

/-- Reads a character. -/
def read (pending : Pending) (c : Char) : Pending × List Key :=
  match pending with
  | nothing => plain c
  | escape => escaped c
  | letter =>
    match c with
    | 'H' => (nothing, [lineStart])
    | 'F' => (nothing, [lineEnd])
    | c =>
      let (pending, keys) := plain c
      (pending, character 'O' :: keys)
  | bracket digits =>
    if c = ';' || c.isDigit then (bracket (c :: digits), [])
    else (nothing, (ofSequence? digits.reverse c).toList)

/-- The keys that are left when no more characters come. -/
def finish : Pending → List Key
  | letter => [character 'O']
  | _ => []

end Pending

/-- The keys that characters stand for, given what was read before them. -/
def keysFrom (pending : Pending) : List Char → List Key
  | [] => pending.finish
  | c :: rest =>
    let (pending, keys) := pending.read c
    keys ++ keysFrom pending rest

/-- The keys that characters stand for. -/
def ofChars (chars : List Char) : List Key := keysFrom .nothing chars

end Key

end TapeMachine.Shell
