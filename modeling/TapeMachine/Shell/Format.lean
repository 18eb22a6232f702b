import TapeMachine.Shell.Compare

/-!
Texts with gaps that are filled: `"%d cells" % n` and `"\x7b\x7d cells".format(n)`.
-/

namespace TapeMachine.Shell

namespace Object

/-- A whole number that is not too great to count with. -/
def smallInt : Object → Except String Int
  | int value =>
    if -0x80000000 ≤ value && value < 0x80000000 then .ok value
    else .error s!"{value} out of range"
  | other => .error s!"got {other.typeName}, want int"

/-- A number without what is behind the point. -/
def wholeNumber : Object → Except String Int
  | int value => .ok value
  | float value => Number.truncate value
  | other => .error s!"cannot convert {other.typeName} to int"

/-- A number as a floating-point one. -/
def float? : Object → Option Float
  | int value =>
    let size := Decimal.nearest value.natAbs 0
    some (if value < 0 then -size else size)
  | float value => some value
  | _ => Option.none

end Object

namespace Format

/-- A whole number in a base. -/
def inBase (base : Nat) (value : Int) : String :=
  (if value < 0 then "-" else "") ++ String.ofList (Nat.toDigits base value.natAbs)

/-- The bytes of a text. -/
def utf8 (text : String) : List UInt8 := Text.encode text.toList

/-- A byte as a character. -/
def byteChar (byte : UInt8) : Char := Char.ofNat byte.toNat

/-- A character by its number or by itself, for a gap that wants one. -/
def character (argument : Object) : Run (List UInt8) := do
  match argument with
  | .int value =>
    if 0 ≤ value && value ≤ 0x10ffff then
      let code := value.toNat
      let isSurrogate : Bool := 0xd800 ≤ code && code < 0xe000
      return Text.encode [if isSurrogate then '\ufffd' else Char.ofNat code]
    else Run.raise s!"%c format requires a valid Unicode code point, got {value}"
  | .text content =>
    match Text.decode content with
    | [c] => return Text.encode [c]
    | _ => Run.raise "%c format requires a single-character string"
  | other =>
    Run.raise s!"%c format requires int or single-character string, not {other.typeName}"

/-- What fills a gap, by the letter that says how. -/
def filling (letter : Char) (argument : Object) : Run (List UInt8) := do
  let whole (base : Nat) : Run String := do
    match argument.wholeNumber with
    | .ok value => return inBase base value
    | .error cause =>
      Run.raise ("%" ++ String.singleton letter ++ " format requires integer: " ++ cause)
  match letter with
  | 's' => Run.plainBytes argument
  | 'r' => return utf8 (← Run.render argument)
  | 'd' => return utf8 (← whole 10)
  | 'i' => return utf8 (← whole 10)
  | 'o' => return utf8 (← whole 8)
  | 'x' => return utf8 (← whole 16)
  | 'X' => return utf8 ((← whole 16).map Char.toUpper)
  | 'c' => character argument
  | '%' => return utf8 "%"
  | letter =>
    if "efgEFG".toList.contains letter then
      match argument.float? with
      | some value => return utf8 (Number.formatted letter value)
      | none =>
        Run.raise ("%" ++ String.singleton letter ++ " format requires float, not "
          ++ argument.typeName)
    else Run.raise ("unknown conversion %" ++ String.singleton letter)

/-- What fills a gap with a name, and what is behind the name. -/
def namedFilling (argument : Object) (format : List UInt8) : Run (Object × List UInt8) := do
  let closing := UInt8.ofNat ')'.toNat
  let key := format.takeWhile (· ≠ closing)
  match format.drop key.length with
  | [] => Run.raise "incomplete format key"
  | _ :: rest =>
    match argument with
    | .dict address =>
      match ← Run.dictValue? address (.text key) with
      | some value => return (value, rest)
      | none => Run.raise ("key not found: " ++ String.ofList (Text.decode key))
    | _ => Run.raise "format requires a mapping"

/-- Fills the gaps of a text; gives the number of gaps as well. The first argument bounds it. -/
def fill (argument : Object) (arguments : List Object)
    : Nat → Nat → List UInt8 → Run (List UInt8 × Nat)
  | 0, index, _ => return ([], index)
  | fuel + 1, index, format => do
    let mark := UInt8.ofNat '%'.toNat
    let plain := format.takeWhile (· ≠ mark)
    match format.drop plain.length with
    | [] => return (plain, index)
    | _ :: rest =>
      if rest.head? = some mark then
        let (tail, count) ← fill argument arguments fuel index (rest.drop 1)
        return (plain ++ mark :: tail, count)
      else
        let (value, rest) ←
          if rest.head? = some (UInt8.ofNat '('.toNat) then namedFilling argument (rest.drop 1)
          else
            match arguments[index]? with
            | some value => pure (value, rest)
            | none => Run.raise "not enough arguments for format string"
        match rest with
        | [] => Run.raise "incomplete format"
        | letter :: rest =>
          let shown ← filling (byteChar letter) value
          let (tail, count) ← fill argument arguments fuel (index + 1) rest
          return (plain ++ shown ++ tail, count)

/-- Fills the gaps of a text with a thing, or with the items of a tuple. Nothing may be left over
except a dictionary.
-/
def interpolate (format : List UInt8) (argument : Object) : Run Object := do
  let arguments := match argument with
    | .tuple items => items
    | other => [other]
  let (content, count) ← fill argument arguments (format.length + 1) 0 format
  let isMapping := argument matches .dict _
  if count < arguments.length && !isMapping then Run.raise "too many arguments for format string"
  return .text content

/-- How the gaps of a text are numbered. -/
inductive Numbering where
  | unset | automatic (next : Nat) | manual
  deriving DecidableEq, Inhabited

/-- A gap between braces: a name or number, how to write, and more. -/
structure Gap where
  name : String
  conversion : String
  details : String

/-- Takes a gap apart. -/
def Gap.ofField (field : String) : Gap :=
  let split (mark : Char) (chars : List Char) : List Char × Option (List Char) :=
    match chars.dropWhile (· ≠ mark) with
    | [] => (chars, none)
    | _ :: rest => (chars.takeWhile (· ≠ mark), some rest)
  let text (chars : Option (List Char)) : String := String.ofList (chars.getD [])
  match split '!' field.toList with
  | (name, some rest) =>
    let (conversion, details) := split ':' rest
    ⟨String.ofList name, String.ofList conversion, text details⟩
  | (whole, none) =>
    let (name, details) := split ':' whole
    ⟨String.ofList name, "s", text details⟩

/-- What fills a gap between braces, and how the next one is numbered. -/
def choose (arguments : List Object) (named : List (List UInt8 × Object)) (numbering : Numbering)
    (name : String) : Run (Object × Numbering) := do
  let pick (position : Nat) (after : Numbering) : Run (Object × Numbering) :=
    match arguments[position]? with
    | some value => return (value, after)
    | none => Run.raise "format: tuple index out of range"
  if name.isEmpty then
    match numbering with
    | .manual =>
      Run.raise ("format: cannot switch from manual field specification to automatic field "
        ++ "numbering")
    | .automatic next => pick next (.automatic (next + 1))
    | .unset => pick 0 (.automatic 1)
  else if name.toList.all Char.isDigit && Decimal.spelled name.toList < 0x8000000000000000 then
    match numbering with
    | .automatic _ =>
      Run.raise ("format: cannot switch from automatic field numbering to manual field "
        ++ "specification")
    | _ => pick (Decimal.spelled name.toList) .manual
  else
    match named.find? fun entry => entry.1 == utf8 name with
    | some (_, value) => return (value, numbering)
    | none =>
      if name.contains '.' then
        Run.raise ("format: attribute syntax x.y is not supported in replacement fields: " ++ name)
      else if name.contains '[' then
        Run.raise ("format: element syntax a[i] is not supported in replacement fields: " ++ name)
      else if name.contains '\x7b' then
        Run.raise "format: nested replacement fields not supported"
      else Run.raise ("format: keyword " ++ name ++ " not found")

/-- A text between gaps, in which two closing braces stand for one. -/
def betweenGaps : List Char → Run (List Char)
  | [] => return []
  | [c] => if c = '\x7d' then Run.raise "format: single '\x7d' in format" else return [c]
  | c :: next :: rest =>
    if c = '\x7d' then
      if next = '\x7d' then return c :: (← betweenGaps rest)
      else Run.raise "format: single '\x7d' in format"
    else return c :: (← betweenGaps (next :: rest))

/-- Fills the gaps between braces. The first argument bounds their number. -/
def fillBraces (arguments : List Object) (named : List (List UInt8 × Object))
    : Nat → Numbering → List Char → Run (List UInt8)
  | 0, _, _ => return []
  | fuel + 1, numbering, chars => do
    let plain ← betweenGaps (chars.takeWhile (· ≠ '\x7b'))
    match chars.dropWhile (· ≠ '\x7b') with
    | [] => return Text.encode plain
    | _ :: rest =>
      if rest.head? = some '\x7b' then
        let tail ← fillBraces arguments named fuel numbering (rest.drop 1)
        return Text.encode (plain ++ ['\x7b']) ++ tail
      else
        let field := rest.takeWhile (· ≠ '\x7d')
        if field.length = rest.length then Run.raise "format: unmatched '\x7b' in format"
        let gap := Gap.ofField (String.ofList field)
        let (value, numbering) ← choose arguments named numbering gap.name
        if !gap.details.isEmpty then
          Run.raise ("format spec features not supported in replacement fields: " ++ gap.details)
        let shown ← match gap.conversion with
          | "s" => Run.plainBytes value
          | "r" => do pure (utf8 (← Run.render value))
          | other => Run.raise ("format: unknown conversion " ++ Text.quoted other)
        let tail ← fillBraces arguments named fuel numbering (rest.drop (field.length + 1))
        return Text.encode plain ++ shown ++ tail

/-- Fills the gaps between braces with arguments and named arguments. -/
def braces (format : List UInt8) (arguments : List Object) (named : List (List UInt8 × Object))
    : Run Object := do
  let chars := Text.decode format
  return .text (← fillBraces arguments named (chars.length + 1) .unset chars)

end Format

end TapeMachine.Shell
