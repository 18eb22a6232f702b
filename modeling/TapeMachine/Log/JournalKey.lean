/-!
Keys of the system journal, which allows upper-case letters, digits and underscores only.
-/

namespace TapeMachine.Log

/-- The upper-case letter of a character, if it has one among A to Z. The dotless i and the long s
are lower-case forms of I and S.
-/
def capital? (c : Char) : Option Char :=
  if c.isUpper then some c
  else if c.isLower then some c.toUpper
  else if c.toNat = 0x131 then some 'I'
  else if c.toNat = 0x17f then some 'S'
  else none

/-- The character that stands for another in a journal key. -/
def journalChar (c : Char) : Char :=
  if c.isDigit then c else (capital? c).getD '_'

/-- The journal key of a key. -/
def journalKey (key : String) : String :=
  key.map journalChar

end TapeMachine.Log
