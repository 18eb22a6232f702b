/-!
The names of fields. What a name is for is seen from how it is written: a definition begins with a
hash sign, and a hidden name with an underscore. Between quotes every text is a plain name.
-/

namespace TapeMachine.Settings

/-- The name of a field. -/
inductive FieldName where
  | plain (text : String)
  | hidden (text : String)
  | definition (text : String)
  | hiddenDefinition (text : String)
  deriving DecidableEq, Inhabited

namespace FieldName

/-- The name that is written without quotes. -/
def ofWord (word : String) : FieldName :=
  if word.startsWith "_#" then .hiddenDefinition word
  else if word.startsWith "#" then .definition word
  else if word.startsWith "_" then .hidden word
  else .plain word

/-- The field holds a definition. -/
def isDefinition : FieldName → Bool
  | .definition _ => true
  | .hiddenDefinition _ => true
  | _ => false

/-- The field is out of reach from outside. -/
def isHidden : FieldName → Bool
  | .hidden _ => true
  | .hiddenDefinition _ => true
  | _ => false

/-- The text of a plain name. -/
def plain? : FieldName → Option String
  | .plain text => some text
  | _ => none

end FieldName

end TapeMachine.Settings
