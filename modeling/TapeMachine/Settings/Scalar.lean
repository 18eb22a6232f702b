import TapeMachine.Settings.Number
import TapeMachine.Text.Part
import TapeMachine.Text.PatternSource

/-!
Data without parts, and descriptions of such data: kinds of data and bounds that data must keep. The
meet of two of them describes what both describe.
-/

namespace TapeMachine.Settings

/-- The kinds of data. -/
inductive Kind where
  | null
  | bool
  | integer
  | fraction
  | text
  | bytes
  | list
  | record
  deriving DecidableEq, Inhabited

/-- All kinds. -/
def Kind.all : List Kind := [.null, .bool, .integer, .fraction, .text, .bytes, .list, .record]

/-- The kinds of numbers. -/
def Kind.numeric : List Kind := [.integer, .fraction]

/-- A datum without parts. -/
inductive Atom where
  | null
  | bool (value : Bool)
  | number (value : Number)
  | text (value : String)
  | bytes (value : List UInt8)
  deriving DecidableEq, Inhabited

namespace Atom

/-- The kind of an atom. -/
def kind : Atom → Kind
  | .null => .null
  | .bool _ => .bool
  | .number value => if value.isInteger then .integer else .fraction
  | .text _ => .text
  | .bytes _ => .bytes

/-- Two atoms compared, if they have an order. -/
def order? : Atom → Atom → Option Ordering
  | .number x, .number y => some (x.order y)
  | .text x, .text y => some (compare x y)
  | .bytes x, .bytes y => some (compare x y)
  | _, _ => none

/-- Two atoms are the same datum: numbers of one kind are the same if their values agree. -/
def isSame : Atom → Atom → Bool
  | .number x, .number y => x.isInteger == y.isInteger && x.order y == .eq
  | x, y => x == y

/-- An integer. -/
def int (value : Int) : Atom := .number (.ofInt value)

/-- The bytes that an atom has inside a text. -/
def bytesInText? : Atom → Option (List UInt8)
  | .null => none
  | .bool value => some (if value then "true" else "false").toUTF8.data.toList
  | .number value => some value.render.toUTF8.data.toList
  | .text value => some value.toUTF8.data.toList
  | .bytes value => some value

end Atom

/-- A test that data pass or do not, given a limit. -/
inductive Test where
  | minChars
  | maxChars
  | contains
  /-- There is a character of the limit in the text. -/
  | containsAny
  | begins
  | ends
  | multiple
  /-- The number of elements of a list. -/
  | minItems
  | maxItems
  /-- The number of fields of a record. -/
  | minFields
  | maxFields
  deriving DecidableEq, Inhabited

namespace Test

/-- The kinds of the data that a test is for. -/
def kinds : Test → List Kind
  | .multiple => Kind.numeric
  | .minItems => [.list]
  | .maxItems => [.list]
  | .minFields => [.record]
  | .maxFields => [.record]
  | _ => [.text]

/-- A datum passes a test. -/
def passes : Test → Atom → Atom → Bool
  | .minChars, .text text, .number limit => limit.digits ≤ text.length
  | .maxChars, .text text, .number limit => text.length ≤ limit.digits
  | .contains, .text text, .text part => (Text.findPart? part.toList text.toList).isSome
  | .containsAny, .text text, .text wanted => text.toList.any wanted.toList.contains
  | .begins, .text text, .text part => part.toList.isPrefixOf text.toList
  | .ends, .text text, .text part => part.toList.isSuffixOf text.toList
  | .multiple, .number number, .number unit => number.isMultiple unit
  | _, _, _ => false

/-- A list of so many elements, or a record of so many fields, passes a test. An open list may get
more elements.
-/
def passesCount (count : Nat) (isOpen : Bool) : Test → Atom → Bool
  | .minItems, .number limit => isOpen || limit.digits ≤ count
  | .maxItems, .number limit => count ≤ limit.digits
  | .minFields, .number limit => limit.digits ≤ count
  | .maxFields, .number limit => count ≤ limit.digits
  | _, _ => true

end Test

/-- How a bound compares with a datum. -/
inductive Relation where
  | less
  | atMost
  | greater
  | atLeast
  | different
  /-- The datum matches a pattern. -/
  | matching
  | notMatching
  | passing (test : Test)
  deriving DecidableEq, Inhabited

/-- A bound that data must keep. -/
structure Bound where
  relation : Relation
  limit : Atom
  deriving DecidableEq, Inhabited

namespace Bound

/-- A bound is about a pattern. -/
def isPattern (relation : Relation) : Bool := relation == .matching || relation == .notMatching

/-- The bound with a relation and a limit, if there can be one: an order asks for numbers, texts or
bytes, a difference also for null, and a pattern for a text that is one.
-/
def of? (relation : Relation) (limit : Atom) : Option Bound :=
  let isFit : Bool := match limit with
    | .number _ => !isPattern relation
    | .text text => !isPattern relation || (Text.Pattern.ofText? text).isSome
    | .bytes _ => !isPattern relation
    | .null => relation == .different
    | .bool _ => false
  if isFit then some ⟨relation, limit⟩ else none

/-- The kinds of the data that a bound is about. -/
def kinds (bound : Bound) : List Kind :=
  if isPattern bound.relation then [.text, .bytes]
  else
    match bound.limit.kind, bound.relation with
    | _, .passing test => test.kinds
    | .null, .different => Kind.all.filter (· ≠ .null)
    | kind, _ => if Kind.numeric.contains kind then Kind.numeric else [kind]

/-- A text or bytes match a pattern. -/
def isMatch (pattern : String) (atom : Atom) : Bool :=
  match Text.Pattern.ofText? pattern, atom with
  | some pattern, .text text => pattern.isFoundIn text
  | some pattern, .bytes bytes =>
    pattern.isFoundIn (String.ofList (bytes.map fun byte => Char.ofNat byte.toNat))
  | _, _ => false

/-- An atom keeps a bound. -/
def allows (bound : Bound) (atom : Atom) : Bool :=
  match bound.relation, bound.limit, atom.order? bound.limit with
  | .matching, .text pattern, _ => isMatch pattern atom
  | .notMatching, .text pattern, _ => !isMatch pattern atom
  | .passing test, limit, _ => test.passes atom limit
  | .less, _, some order => order == .lt
  | .atMost, _, some order => order != .gt
  | .greater, _, some order => order == .gt
  | .atLeast, _, some order => order != .lt
  | .different, _, some order => order != .eq
  | .different, limit, none => atom ≠ limit
  | _, _, _ => false

/-- A list of so many elements, or a record of so many fields, keeps a bound. -/
def allowsCount (count : Nat) (isOpen : Bool) (bound : Bound) : Bool :=
  match bound.relation with
  | .passing test => test.passesCount count isOpen bound.limit
  | _ => true

/-- No integer lies between two bounds. -/
def excludesIntegers (lower upper : Bound) (x y : Number) : Bool :=
  let low := if lower.relation == .atLeast then x.ceiling else x.floor
  let high := if upper.relation == .atMost then y.floor else y.ceiling
  match lower.relation, upper.relation with
  | .atLeast, .atMost => high < low
  | .greater, .less => high ≤ low + 1
  | _, _ => high ≤ low

/-- No datum keeps both bounds: they leave a gap, or nothing but a point that one of them excludes,
or, for integers, nothing between two neighbours.
-/
def excludes (onlyIntegers : Bool) (lower upper : Bound) : Bool :=
  let isLower := lower.relation == .atLeast || lower.relation == .greater
  let isUpper := upper.relation == .atMost || upper.relation == .less
  if !isLower || !isUpper then false
  else
    match lower.limit, upper.limit, lower.limit.order? upper.limit with
    | .number x, .number y, some order =>
      if onlyIntegers then excludesIntegers lower upper x y
      else order == .gt || (order == .eq && (lower.relation == .greater || upper.relation == .less))
    | _, _, some order =>
      order == .gt || (order == .eq && (lower.relation == .greater || upper.relation == .less))
    | _, _, none => false

end Bound

/-- A datum without parts, or a description of data. -/
inductive Scalar where
  | atom (value : Atom)
  /-- Every datum of one of the kinds that keeps the bounds. -/
  | described (kinds : List Kind) (bounds : List Bound)
  deriving DecidableEq, Inhabited

namespace Scalar

/-- Any datum. -/
def anything : Scalar := .described Kind.all []

/-- What is described by kinds and bounds, if that may be met. -/
def describe? (kinds : List Kind) (bounds : List Bound) : Option Scalar :=
  let onlyIntegers : Bool := !kinds.contains .fraction
  let clash := bounds.any fun lower => bounds.any (Bound.excludes onlyIntegers lower)
  if kinds.isEmpty || clash then none else some (.described kinds bounds)

/-- The meet of two descriptions, or nothing if they exclude each other. -/
def meet? : Scalar → Scalar → Option Scalar
  | .described ks bs, .described ls cs =>
    describe? (ks.filter ls.contains) (bs ++ cs.filter (!bs.contains ·))
  | .described ks bs, .atom a =>
    if ks.contains a.kind && bs.all (·.allows a) then some (.atom a) else none
  | .atom a, .described ks bs =>
    if ks.contains a.kind && bs.all (·.allows a) then some (.atom a) else none
  | .atom a, .atom b => if a.isSame b then some (.atom a) else none

/-- Data of a kind may be meant. -/
def admits (kind : Kind) : Scalar → Bool
  | .atom value => value.kind == kind
  | .described kinds _ => kinds.contains kind

/-- A list of so many elements, or a record of so many fields, may be meant. -/
def admitsCount (count : Nat) (isOpen : Bool) : Scalar → Bool
  | .atom _ => false
  | .described _ bounds => bounds.all (·.allowsCount count isOpen)

end Scalar

end TapeMachine.Settings
