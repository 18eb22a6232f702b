/-!
The modes a program runs in. Network side effects such as proxies belong to production only.
-/

namespace TapeMachine

/-- How a program is being used. -/
inductive Mode where
  | unknown
  | production
  | development
  deriving DecidableEq, Inhabited

namespace Mode

/-- The mode with a code. -/
def ofCode (code : Nat) : Mode :=
  if code = 1 then production else if code = 2 then development else unknown

/-- The code of a mode. -/
def toCode : Mode → Nat
  | unknown => 0
  | production => 1
  | development => 2

/-- The name of a mode. -/
def name : Mode → String
  | unknown => "unknown"
  | production => "production"
  | development => "development"

/-- A test is at hand: it is, exactly while a program is developed. -/
def underTest : Mode → Bool
  | development => true
  | _ => false

end Mode

end TapeMachine
