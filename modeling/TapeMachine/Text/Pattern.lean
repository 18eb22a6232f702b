import TapeMachine.Text.Letter

/-!
Patterns that texts can match: characters, classes of them, sequences, alternatives and repetitions.
A text is matched by following all ways at once: from a set of places a pattern leads to the set of
places where it may end.
-/

namespace TapeMachine.Text

/-- A property of characters that a class can name. -/
inductive CharProperty where
  | letter
  | decimalDigit
  deriving DecidableEq, Inhabited

/-- A part of a class of characters. -/
inductive CharItem where
  | range (low high : Nat)
  | property (property : CharProperty) (isNegated : Bool)
  deriving DecidableEq, Inhabited

/-- A class of characters. -/
structure CharClass where
  items : List CharItem
  isNegated : Bool := false
  /-- Capital and small letters of the first alphabet are the same. -/
  foldsCase : Bool := false
  deriving DecidableEq, Inhabited

/-- A character belongs to a part of a class. -/
def CharItem.holds (c : Char) : CharItem → Bool
  | .range low high => low ≤ c.toNat && c.toNat ≤ high
  | .property .letter isNegated => isLetter c != isNegated
  | .property .decimalDigit isNegated => isDecimalDigit c != isNegated

/-- A character belongs to a class. -/
def CharClass.holds (cls : CharClass) (c : Char) : Bool :=
  let plain (c : Char) : Bool := cls.items.any (CharItem.holds c)
  let found := plain c || (cls.foldsCase && (plain c.toLower || plain c.toUpper))
  found != cls.isNegated

/-- A place that a pattern can ask for without taking a character. -/
inductive Anchor where
  | textStart
  | textEnd
  | lineStart
  | lineEnd
  | wordEdge (isNegated : Bool)
  deriving DecidableEq, Inhabited

/-- A pattern. -/
inductive Pattern where
  | empty
  | one (cls : CharClass)
  | anchor (place : Anchor)
  | sequence (first second : Pattern)
  | either (first second : Pattern)
  /-- At least `least` times, and at most `most` times if that is given. -/
  | repeated (body : Pattern) (least : Nat) (most : Option Nat)
  deriving DecidableEq, Inhabited

namespace Pattern

/-- A letter, digit or underscore of the first alphabet. -/
def isWordChar (c : Char) : Bool := c.isAlphanum || c == '_'

/-- An anchor holds at a place of a text. -/
def anchorHolds (text : Array Char) (place : Nat) : Anchor → Bool
  | .textStart => place == 0
  | .textEnd => place == text.size
  | .lineStart => place == 0 || text[place - 1]? == some '\n'
  | .lineEnd => place == text.size || text[place]? == some '\n'
  | .wordEdge isNegated =>
    let before := place != 0 && (text[place - 1]?.map isWordChar).getD false
    let behind := (text[place]?.map isWordChar).getD false
    (before != behind) != isNegated

/-- The places of both lists, each once. -/
def union (left right : List Nat) : List Nat := left ++ right.filter (!left.contains ·)

/-- What is reached by at most `rounds` further steps. -/
def closure (step : List Nat → List Nat) : Nat → List Nat → List Nat → List Nat
  | 0, reached, _ => reached
  | rounds + 1, reached, front =>
    let next := (step front).filter (!reached.contains ·)
    if next.isEmpty then reached else closure step rounds (union reached next) next

/-- What is reached by exactly `count` steps. -/
def iterate (step : List Nat → List Nat) : Nat → List Nat → List Nat
  | 0, places => places
  | count + 1, places => iterate step count (step places)

/-- The places where a pattern may end that begins at one of some places. -/
def follow (text : Array Char) : Pattern → List Nat → List Nat
  | .empty, places => places
  | .one cls, places =>
    places.filterMap fun place =>
      match text[place]? with
      | some c => if cls.holds c then some (place + 1) else none
      | none => none
  | .anchor wanted, places => places.filter fun place => anchorHolds text place wanted
  | .sequence first second, places => follow text second (follow text first places)
  | .either first second, places => union (follow text first places) (follow text second places)
  | .repeated body least most, places =>
    let start := iterate (follow text body) least places
    match most with
    | none => closure (follow text body) (text.size + 1) start start
    | some most => closure (follow text body) (most - least) start start

/-- Some part of a text matches a pattern. -/
def isFoundIn (pattern : Pattern) (text : String) : Bool :=
  let chars := text.toList.toArray
  !(pattern.follow chars (List.range (chars.size + 1))).isEmpty

end Pattern

end TapeMachine.Text
