import TapeMachine.Shell.Argument
import TapeMachine.Text.Blank
import TapeMachine.Text.Letter
import TapeMachine.Text.Part

/-!
The methods of texts and of bytes in the debug shell. Places in a text are counted in bytes.
-/

namespace TapeMachine.Shell

namespace TextMethod

/-- The pieces of a text between blanks, of which at most so many are cut off at the front. The last
keeps its blanks. The second argument bounds the number of pieces.
-/
def firstWords : Nat → Nat → List Char → List (List Char)
  | _, 0, _ => []
  | most, fuel + 1, chars =>
    let chars := chars.dropWhile Text.isBlank
    if chars.isEmpty then []
    else
      let word := chars.takeWhile (!Text.isBlank ·)
      let rest := chars.drop word.length
      if rest.isEmpty then [word]
      else
        match most with
        | 0 => [chars]
        | most + 1 => word :: firstWords most fuel rest

/-- The pieces of a text between blanks, of which at most so many are cut off at the end. -/
def lastWords (most : Nat) (chars : List Char) : List (List Char) :=
  ((firstWords most (chars.length + 1) chars.reverse).map List.reverse).reverse

/-- A list of texts. -/
def texts (contents : List (List UInt8)) : Run Object :=
  Run.newList (contents.map .text)

/-- The pieces of a text, cut at a separator or at blanks, from the front or from the end. -/
def split (name : String) (content : List UInt8) (arguments : Arguments) : Run Object := do
  let given ← arguments.unnamed name 0 [.anything, .int]
  let most : Int := match given.getD 1 .none with
    | .int most => most
    | _ => -1
  let isFirst := name = "split"
  match given.headD .none with
  | .none =>
    let chars := Text.decode content
    if !isFirst then Run.makeRoom (most + 1).toNat
    let found :=
      if most < 0 then Text.words chars
      else if isFirst then firstWords most.toNat (chars.length + 1) chars
      else lastWords most.toNat chars
    texts (found.map Text.encode)
  | .text separator =>
    if separator.isEmpty then Run.raise "split: empty separator"
    let all := Text.piecesBetween separator content.length content
    if most < 0 then texts all
    else if isFirst then texts (Text.piecesBetween separator most.toNat content)
    else
      let excess := all.length - most.toNat
      if 0 < excess then
        texts (Text.joinedBy separator (all.take excess) :: all.drop excess)
      else texts all
  | other => Run.raise s!"split: got {other.typeName} for separator, want string"

/-- A part of a text is looked for, between bounds. -/
def find (name : String) (content : List UInt8) (arguments : Arguments) : Run Object := do
  let given ← arguments.unnamed name 1 [.text, .anything, .anything]
  let part := match given.headD .none with
    | .text part => part
    | _ => []
  let (start, stop) ← Run.blame name
    (Access.ends (given.getD 1 .none) (given.getD 2 .none) content.length)
  let within := (content.take stop).drop start
  let found :=
    if name = "rfind" || name = "rindex" then Text.findLastPart? part within
    else Text.findPart? part within
  match found with
  | some place => return .int (place + start : Nat)
  | none =>
    if name = "index" || name = "rindex" then Run.raise (name ++ ": substring not found")
    else return .int (-1)

/-- How often a part stands in a text, between bounds. -/
def count (content : List UInt8) (arguments : Arguments) : Run Object := do
  let given ← arguments.unnamed "count" 1 [.text, .anything, .anything]
  let part := match given.headD .none with
    | .text part => part
    | _ => []
  let (start, stop) ← Run.blame "count"
    (Access.ends (given.getD 1 .none) (given.getD 2 .none) content.length)
  let within := (content.take stop).drop start
  if part.isEmpty then return .int ((Text.decode within).length + 1 : Nat)
  else return .int ((Text.piecesBetween part within.length within).length - 1 : Nat)

/-- One of several texts is at the beginning or at the end of a text. -/
def fitsOne (name : String) (fits : List UInt8 → Bool) : Nat → List Object → Run Bool
  | _, [] => return false
  | number, .text part :: rest =>
    if fits part then return true else fitsOne name fits (number + 1) rest
  | number, other :: _ =>
    Run.raise s!"{name}: want string, got {other.typeName}, for element {number}"

/-- A text begins or ends with another, between bounds. -/
def fits (name : String) (content : List UInt8) (arguments : Arguments) : Run Object := do
  let given ← arguments.unnamed name 1 [.anything, .anything, .anything]
  let (start, stop) ← Run.blame name
    (Access.ends (given.getD 1 .none) (given.getD 2 .none) content.length)
  let within := (content.take stop).drop start
  let test (part : List UInt8) : Bool :=
    if name = "startswith" then part.isPrefixOf within else part.isSuffixOf within
  match given.headD .none with
  | .text part => return .bool (test part)
  | .tuple parts => return .bool (← fitsOne name test 0 parts)
  | other => Run.raise s!"{name}: got {other.typeName}, want string or tuple of string"

/-- A text without characters at its ends: blanks, or those of another text. -/
def strip (name : String) (content : List UInt8) (arguments : Arguments) : Run Object := do
  let given ← arguments.unnamed name 0 [.text]
  let goes : Char → Bool := match given with
    | [.text (byte :: rest)] =>
      let chars := Text.decode (byte :: rest)
      fun c => chars.contains c
    | _ => Text.isBlank
  let chars := Text.decode content
  let front := if name = "rstrip" then chars else chars.dropWhile goes
  let kept := if name = "lstrip" then front else (front.reverse.dropWhile goes).reverse
  return .text (Text.encode kept)

/-- A text cut in three at a part of it. -/
def partition (name : String) (content : List UInt8) (arguments : Arguments) : Run Object := do
  match ← arguments.unnamed name 1 [.text] with
  | [.text part] =>
    if part.isEmpty then Run.raise (name ++ ": empty separator")
    let isFirst := name = "partition"
    match if isFirst then Text.findPart? part content else Text.findLastPart? part content with
    | some place =>
      return .tuple
        [.text (content.take place), .text part, .text (content.drop (place + part.length))]
    | none =>
      if isFirst then return .tuple [.text content, .text [], .text []]
      else return .tuple [.text [], .text [], .text content]
  | _ => return .none

/-- A text between characters, at most so many times. -/
def interleave (new : List UInt8) : Nat → List Char → List UInt8
  | 0, chars => Text.encode chars
  | _ + 1, [] => new
  | most + 1, c :: rest => new ++ Text.encode [c] ++ interleave new most rest

/-- A text with parts replaced, at most so many. -/
def replace (content : List UInt8) (arguments : Arguments) : Run Object := do
  match ← arguments.unnamed "replace" 2 [.text, .text, .int] with
  | .text old :: .text new :: more =>
    let most : Nat := match more with
      | [.int most] => if most < 0 then content.length + 1 else min most.toNat (content.length + 1)
      | _ => content.length + 1
    if old.isEmpty then return .text (interleave new most (Text.decode content))
    else return .text (Text.joinedBy new (Text.piecesBetween old most content))
  | _ => return .none

/-- The texts among items, with a text between them. -/
def join (content : List UInt8) (arguments : Arguments) : Run Object := do
  let given ← arguments.unnamed "join" 1 [.iterable]
  let course := (← Run.course? (given.headD .none)).getD (.items [])
  let contents ← course.mapM fun _ item => do
    match item with
    | .text part => return part
    | other => Run.raise s!"join: in list, want string, got {other.typeName}"
  return .text (Text.joinedBy content contents)

/-- The lines of a text, with or without the breaks at their ends. -/
def splitLines (content : List UInt8) (arguments : Arguments) : Run Object := do
  let given ← arguments.unnamed "splitlines" 0 [.bool]
  let keepsEnds := match given with
    | [.bool value] => value
    | _ => false
  let lineBreak : List UInt8 := [10]
  let all := Text.piecesBetween lineBreak content.length content
  let complete := all.dropLast.map fun line => if keepsEnds then line ++ lineBreak else line
  texts (complete ++ (all.drop (all.length - 1)).filter (!·.isEmpty))

/-- A text with each word in upper case at its beginning and in lower case behind it. -/
def titled : Bool → List Char → List Char
  | _, [] => []
  | isInside, c :: rest =>
    let written := if isInside then Text.lowerCase c else Text.upperCase c
    written :: titled (Text.isCased written) rest

/-- Upper case stands only at the beginning of words, and lower case only behind it. The second
argument says whether the character before has a case.
-/
def isTitled (hasCase isInside : Bool) : List Char → Bool
  | [] => hasCase
  | c :: rest =>
    if c.isUpper then !isInside && isTitled true true rest
    else if Text.isLowerCase c then isInside && isTitled true true rest
    else if Text.isUpperCase c then false
    else isTitled hasCase false rest

/-- The methods that look at all characters of a text. -/
def inspect (name : String) (chars : List Char) : Object :=
  let all (test : Char → Bool) : Object := .bool (!chars.isEmpty && chars.all test)
  let isCased := chars.any Text.isCased
  match name with
  | "isalnum" => all fun c => Text.isLetter c || Text.isDecimalDigit c
  | "isalpha" => all Text.isLetter
  | "isdigit" => all Text.isDecimalDigit
  | "isspace" => all Text.isBlank
  | "islower" => .bool (isCased && chars.all fun c => Text.lowerCase c = c)
  | "isupper" => .bool (isCased && chars.all fun c => Text.upperCase c = c)
  | "istitle" => .bool (isTitled false false chars)
  | "lower" => .text (Text.encode (chars.map Text.lowerCase))
  | "upper" => .text (Text.encode (chars.map Text.upperCase))
  | "title" => .text (Text.encode (titled false chars))
  | _ =>
    match chars with
    | [] => .text []
    | c :: rest => .text (Text.encode (Text.upperCase c :: rest.map Text.lowerCase))

/-- A text without another at its beginning or its end. -/
def remove (name : String) (content : List UInt8) (arguments : Arguments) : Run Object := do
  match ← arguments.unnamed name 1 [.text] with
  | [.text part] =>
    if name = "removeprefix" then
      return .text (Text.withoutStart part content)
    else return .text (Text.withoutEnd part content)
  | _ => return .none

/-- Calls a method of a text. -/
def call (name : String) (content : List UInt8) (arguments : Arguments) : Run Object := do
  match name with
  | "count" => count content arguments
  | "format" => Format.braces content arguments.positional arguments.named
  | "join" => join content arguments
  | "replace" => replace content arguments
  | "splitlines" => splitLines content arguments
  | name =>
    if ["find", "index", "rfind", "rindex"].contains name then find name content arguments
    else if ["startswith", "endswith"].contains name then fits name content arguments
    else if ["strip", "lstrip", "rstrip"].contains name then strip name content arguments
    else if ["partition", "rpartition"].contains name then partition name content arguments
    else if ["split", "rsplit"].contains name then split name content arguments
    else if ["removeprefix", "removesuffix"].contains name then remove name content arguments
    else
      arguments.none name
      match name with
      | "elems" => return .textBytes content false
      | "elem_ords" => return .textBytes content true
      | "codepoints" => return .textChars content false
      | "codepoint_ords" => return .textChars content true
      | name => return inspect name (Text.decode content)

end TextMethod

end TapeMachine.Shell
