import TapeMachine.Shell.History
import TapeMachine.Shell.Key
import TapeMachine.Text.Utf8

/-!
Lines as they are typed into the debug shell: keys are pressed one after another, until one of them
ends the line.
-/

namespace TapeMachine.Shell

/-- How a line ends. -/
inductive LineEnding where
  | entered
  /-- The line was broken off. -/
  | interrupted
  /-- There is nothing more to read. -/
  | endOfInput
  /-- A key could not be obeyed, which ends the whole program. -/
  | breakdown
  deriving DecidableEq, Inhabited

/-- What is typed up to the end of a line. -/
structure Line where
  chars : List Char := []
  /-- What the editor wrote meanwhile. -/
  echo : String := ""
  ending : LineEnding := .entered
  deriving DecidableEq, Inhabited

/-- The state of the line editor. -/
structure Editor where
  draft : Draft := {}
  /-- The characters that were taken out last. -/
  killed : List Char := []
  history : History := {}
  /-- What the editor wrote since the line began. -/
  echo : String := ""
  deriving Inhabited

namespace Editor

/-- The line as it is, ended in some way. -/
def line (editor : Editor) (ending : LineEnding) : Line :=
  { chars := editor.draft.chars, echo := editor.echo, ending }

/-- The bell rings. -/
def ring (editor : Editor) : Editor := { editor with echo := editor.echo ++ "\x07" }

/-- The editor with another draft. A line cannot be changed beyond its end. -/
def altered (editor : Editor) (draft : Draft) : Option Editor :=
  if 0 < editor.draft.excess then none else some { editor with draft }

/-- The editor with another draft, from which characters have been taken out. -/
def reduced (editor : Editor) (draft : Draft) (killed : List Char) : Option Editor :=
  { editor with killed }.altered draft

/-- Shows a line of the history, or rings the bell if it is not there. -/
def revisit (editor : Editor) (found : Option (List Char × History)) : Editor :=
  match found with
  | some (chars, history) => { editor with draft := .ofChars chars, history }
  | none => editor.ring

/-- The editor after a key that changes the line, unless the cursor is beyond its end. -/
def change (editor : Editor) (key : Key) : Option Editor :=
  let draft := editor.draft
  match key with
  | .character c => editor.altered (draft.insert [c])
  | .wordBack => editor.altered draft.wordBack
  | .backspace =>
    if draft.isEmpty then some editor.ring
    else editor.altered { draft with before := draft.before.drop 1 }
  | .delete =>
    match draft.behind with
    | c :: rest => editor.reduced { draft with behind := rest } [c]
    | [] => (editor.altered draft).map ring
  | .deleteWord =>
    if draft.behind.isEmpty then editor.altered draft
    else
      let taken := draft.restOfWord
      editor.reduced { draft with behind := draft.behind.drop taken.length } taken
  | .killWordBack =>
    if draft.before.isEmpty then some editor
    else
      match Draft.wordStartBefore? draft.before with
      | some count =>
        editor.reduced { draft with before := draft.before.drop count }
          (draft.before.take count).reverse
      | none => editor.altered {}
  | .killFront =>
    if draft.before.isEmpty then some editor
    else editor.reduced { draft with before := [] } draft.before.reverse
  | .killRest => editor.reduced { draft with behind := [] } draft.behind
  | .yank =>
    if editor.killed.isEmpty then some editor else editor.altered (draft.insert editor.killed)
  | _ => some editor

/-- The editor after a key that does not end the line, unless the key cannot be obeyed. -/
def press (editor : Editor) (key : Key) : Option Editor :=
  let move (draft : Draft) : Option Editor := some { editor with draft }
  match key with
  | .back => move editor.draft.back
  | .forward => move editor.draft.forward
  | .wordForward => move editor.draft.wordForward
  | .lineStart => move editor.draft.toStart
  | .lineEnd => move editor.draft.toEnd
  | .transpose => move editor.draft.transpose
  | .previous => some (editor.revisit editor.history.previous?)
  | .next => some (editor.revisit editor.history.next?)
  | .clearScreen => some { editor with echo := editor.echo ++ "\x1b[H" }
  | .search => none
  | key => editor.change key

/-- The history takes note of the line. -/
def noted (editor : Editor) : Editor :=
  { editor with history := editor.history.note editor.draft }

/-- The editor when the line was entered. -/
def entered (editor : Editor) : Editor :=
  { killed := editor.killed, history := editor.history.enter editor.draft.chars : Editor }.noted

/-- The editor when the line was broken off. -/
def interrupted (editor : Editor) : Editor :=
  { killed := editor.killed, history := editor.history.giveUp }

/-- The lines that keys make up. The input ends behind the last key, or with a key for that in an
empty line; a line that is not empty is entered first.
-/
def lines (editor : Editor) : List Key → List Line
  | [] =>
    if editor.draft.isEmpty then [editor.line .endOfInput]
    else [editor.line .entered, { ending := .endOfInput }]
  | key :: rest =>
    if key = .enter || (key = .endOfInput && !editor.draft.isEmpty) then
      editor.line .entered :: lines editor.entered rest
    else if key = .interrupt then
      editor.line .interrupted :: lines editor.interrupted rest
    else if (key = .endOfInput || key = .delete) && editor.draft.isEmpty then
      [editor.line .endOfInput]
    else
      match editor.press key with
      | some editor => lines editor.noted rest
      | none => [editor.line .breakdown]

end Editor

/-- The lines that bytes make up. -/
def linesOf (bytes : List UInt8) : List Line :=
  ({} : Editor).lines (Key.ofChars (Text.decode bytes))

end TapeMachine.Shell
