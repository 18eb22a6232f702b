import TapeMachine.Text.Quoted

/-!
What reading does to the current cell once the input has ended.
-/

namespace TapeMachine

/-- The policies for reading at the end of the input. A code outside the named three is kept as a
number and acts like `unchanged`.
-/
inductive EndOfInput where
  /-- The cell stays as it was. -/
  | unchanged
  /-- The cell becomes 0. -/
  | zero
  /-- The cell becomes 255. -/
  | max
  /-- A code without a name. -/
  | other (code : UInt8)
  deriving DecidableEq, Inhabited

namespace EndOfInput

/-- The policy with a code. -/
def ofCode (code : UInt8) : EndOfInput :=
  if code = 0 then unchanged else if code = 1 then zero else if code = 2 then max else other code

/-- The code of a policy. -/
def toCode : EndOfInput → UInt8
  | unchanged => 0
  | zero => 1
  | max => 2
  | other code => code

/-- The name of a policy. -/
def name : EndOfInput → String
  | unchanged => "unchanged"
  | zero => "zero"
  | max => "max"
  | other code => s!"EOFPolicy({code})"

/-- The policy that a setting names; no text at all means `unchanged`. -/
def ofName? (text : String) : Option EndOfInput :=
  if text = "" || text = "unchanged" then some unchanged
  else if text = "zero" || text = "0" then some zero
  else if text = "max" || text = "-1" then some max
  else none

/-- What is reported for a text that names no policy. -/
def badNameMessage (text : String) : String :=
  s!"bad eof policy: {Text.quoted text}"

/-- The byte that a policy stores at the end of the input, if it stores one. -/
def stored? : EndOfInput → Option UInt8
  | zero => some 0
  | max => some 255
  | _ => none

end EndOfInput

end TapeMachine
