/-!
Choosing among settings: the first that says anything, and words that mean yes.
-/

namespace TapeMachine.Text

/-- The words that mean yes; every other text means no. -/
def affirmations : List String := ["true", "t", "yes", "y", "on", "1"]

/-- A text means yes, in whatever case it is written. -/
def affirms (text : String) : Bool :=
  affirmations.contains text.toLower

/-- The first value that is not zero, or zero. -/
def firstNonzero (values : List Int) : Int :=
  (values.find? (· ≠ 0)).getD 0

/-- The first text that is not empty, or the empty text. -/
def firstNonempty (texts : List String) : String :=
  (texts.find? (!·.isEmpty)).getD ""

end TapeMachine.Text
