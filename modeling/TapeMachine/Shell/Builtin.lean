import TapeMachine.Shell.ContainerMethod
import TapeMachine.Shell.Literal
import TapeMachine.Shell.Tap
import TapeMachine.Shell.TextMethod

/-!
The functions of the debug shell that are always there.
-/

namespace TapeMachine.Shell

/-- The names of the functions that are always there. -/
def builtinNames : List String :=
  ["abs", "all", "any", "bool", "bytes", "chr", "dict", "dir", "enumerate", "fail", "float",
    "getattr", "hasattr", "hash", "int", "len", "list", "max", "min", "ord", "print", "range",
    "repr", "reversed", "set", "sorted", "str", "tuple", "type", "zip"]

/-- What a name stands for that is always there. -/
def universal? (name : String) : Option Object :=
  match name with
  | "None" => some .none
  | "True" => some (.bool true)
  | "False" => some (.bool false)
  | name => if builtinNames.contains name then some (.builtin name) else none

namespace Builtin

/-- How functions call the functions that they are given. -/
abbrev Invoke := Object → List Object → Run Object

/-- The items of an argument that can be gone through, for which there must be room. -/
def items (object : Object) : Run (List Object) := do
  let course := (← Run.course? object).getD (.items [])
  Run.makeRoom course.length
  return course.toList

/-- The pieces of a message, with something between them. -/
def sentence (name : String) (arguments : Arguments) (isPrinted : Bool) : Run (List UInt8) := do
  let found ← Arguments.byName name { named := arguments.named } [⟨"sep", true, .text⟩]
  let between := match found with
    | [some (.text between)] => between
    | _ => [32]
  let pieces ← arguments.positional.mapM fun object =>
    match object with
    | .bytes content => if isPrinted then pure content else Run.plainBytes object
    | object => Run.plainBytes object
  return Text.joinedBy between pieces

/-- Prints things on a line of their own. -/
def print (arguments : Arguments) : Run Object := do
  let line ← sentence "print" arguments true
  modify fun world =>
    { world with printed := world.printed ++ String.ofList (Text.decode line) ++ "\n" }
  return .none

/-- The number that a text spells in a base, if it spells one. Zero stands for the base that the
text itself tells.
-/
def parseInt? (content : List Char) (base : Nat) : Option Int := do
  let (isNegative, digits) := match content with
    | '+' :: rest => (false, rest)
    | '-' :: rest => (true, rest)
    | digits => (false, digits)
  let sign (value : Nat) : Int := if isNegative then -(value : Int) else value
  let named : Option Nat := match digits with
    | '0' :: mark :: _ :: _ =>
      if mark = 'o' || mark = 'O' then some 8
      else if mark = 'x' || mark = 'X' then some 16
      else if mark = 'b' || mark = 'B' then some 2
      else none
    | _ => none
  match named with
  | some other =>
    if base = 0 || base = other then (spelledIn? other (digits.drop 2)).map sign
    else (spelledIn? base digits).map sign
  | none =>
    if base = 0 then
      if 1 < digits.length && digits.head? = some '0' then
        if digits.all (· = '0') then some 0 else none
      else (spelledIn? 10 digits).map sign
    else (spelledIn? base digits).map sign

/-- A whole number made of a text or of another number. -/
def int (arguments : Arguments) : Run Object := do
  let found ← arguments.byName "int" [⟨"x", false, .anything⟩, ⟨"base", true, .anything⟩]
  let base? := (found.getD 1 none)
  match (found.headD none).getD .none, base? with
  | .text content, base? =>
    let base ← match base? with
      | none => pure (10 : Int)
      | some base =>
        match base.smallInt with
        | .ok base => pure base
        | .error _ => Run.raise s!"int: for base, got {base.typeName}, want int"
    if base ≠ 0 && (base < 2 || 36 < base) then
      Run.raise "int: base must be an integer >= 2 && <= 36"
    match parseInt? (Text.decode content) base.toNat with
    | some value => return .int value
    | none =>
      Run.raise s!"int: invalid literal with base {base}: {String.ofList (Text.decode content)}"
  | _, some _ => Run.raise "int: can't convert non-string with explicit base"
  | .bool value, none => return .int value.toNat
  | object, none =>
    match object.wholeNumber with
    | .ok value => return .int value
    | .error cause => Run.raise ("int: " ++ cause)

/-- Digits without the underscores between them. One may also stand behind the mark of a base. The
first argument says whether a digit comes before.
-/
def withoutUnderscores? (isDigit : Char → Bool) : Bool → List Char → Option (List Char)
  | _, [] => some []
  | isBehindDigit, '_' :: rest =>
    match rest with
    | c :: _ => if isBehindDigit && isDigit c then withoutUnderscores? isDigit false rest else none
    | [] => none
  | _, c :: rest => (withoutUnderscores? isDigit (isDigit c) rest).map (c :: ·)

/-- The number that hexadecimal digits spell, with a point and a power of two: `1.8p3`. -/
def readHex? (chars : List Char) : Option Float :=
  let whole := chars.takeWhile (isDigitIn 16)
  let (fraction, rest) := match chars.drop whole.length with
    | '.' :: tail => (tail.takeWhile (isDigitIn 16), tail.dropWhile (isDigitIn 16))
    | rest => ([], rest)
  let number (sign : Int) (power : List Char) : Option Float := do
    let mantissa ← spelledIn? 16 (whole ++ fraction)
    let power ← spelledIn? 10 power
    return Decimal.nearestBinary mantissa (sign * power - 4 * fraction.length)
  match rest with
  | mark :: power =>
    if mark ≠ 'p' && mark ≠ 'P' then none
    else
      match power with
      | '-' :: digits => number (-1) digits
      | '+' :: digits => number 1 digits
      | digits => number 1 digits
  | [] => none

/-- The number that a text without a sign spells, in decimal or hexadecimal digits. -/
def readFloat? (chars : List Char) : Option Float :=
  match chars with
  | '0' :: mark :: rest =>
    if mark = 'x' || mark = 'X' then (withoutUnderscores? (isDigitIn 16) true rest).bind readHex?
    else (withoutUnderscores? Char.isDigit false chars).bind Decimal.read?
  | chars => (withoutUnderscores? Char.isDigit false chars).bind Decimal.read?

/-- The floating-point number that a text spells. -/
def parseFloat (content : List UInt8) : Run Object := do
  let chars := Text.decode content
  if chars.isEmpty then Run.raise "float: empty string"
  let (sign, body) : String × List Char := match chars with
    | '+' :: rest => ("+", rest)
    | '-' :: rest => ("-", rest)
    | rest => ("", rest)
  let word := (String.ofList body).toLower
  let signed (value : Float) : Object := .float (if sign = "-" then -value else value)
  if word = "inf" || word = "infinity" then return signed (1.0 / 0.0)
  else if word = "nan" then return .float (0.0 / 0.0)
  else
    match readFloat? body with
    | some value =>
      if value.isInf then Run.raise "floating-point number too large" else return signed value
    | none => Run.raise ("invalid float literal: " ++ String.ofList chars)

/-- A floating-point number made of a text or of another number. -/
def float (arguments : Arguments) : Run Object := do
  if !arguments.named.isEmpty then Run.raise "float does not accept keyword arguments"
  match arguments.positional with
  | [] => return .float 0
  | [object] =>
    match object with
    | .bool value => return .float (if value then 1 else 0)
    | .int value => return .float (← Operator.toFloat value)
    | .float value => return .float value
    | .text content => parseFloat content
    | other => Run.raise s!"float got {other.typeName}, want number or string"
  | others => Run.raise s!"float got {others.length} arguments, wants 1"

/-- Bytes made of a text, of bytes or of numbers. -/
def bytes (arguments : Arguments) : Run Object := do
  match ← arguments.exactlyOne "bytes" "exactly 1" with
  | .bytes content => return .bytes content
  | .text content => return .bytes (Text.encode (Text.decode content))
  | object =>
    match ← Run.course? object with
    | none => Run.raise s!"bytes: got {object.typeName}, want string, bytes, or iterable of ints"
    | some course =>
      let content ← course.mapM fun number item => do
        match item with
        | .int value =>
          if 0 ≤ value && value < 256 then return UInt8.ofNat value.toNat
          else
            Run.raise (s!"bytes: at index {number}, {value} out of range "
              ++ "(want value in unsigned 8-bit range)")
        | other => Run.raise s!"bytes: at index {number}, got {other.typeName}, want int"
      return .bytes content

/-- The character of a number. -/
def chr (arguments : Arguments) : Run Object := do
  match (← arguments.exactlyOne "chr" "1").smallInt with
  | .error cause => Run.raise ("chr: " ++ cause)
  | .ok code =>
    if code < 0 then Run.raise s!"chr: Unicode code point {code} out of range (<0)"
    else if 0x10ffff < code then
      let digits := String.ofList ((Nat.toDigits 16 code.toNat).map Char.toUpper)
      Run.raise s!"chr: Unicode code point U+{digits} out of range (>0x10FFFF)"
    else return .text (← Format.character (.int code))

/-- The number of a character. -/
def ord (arguments : Arguments) : Run Object := do
  match ← arguments.exactlyOne "ord" "1" with
  | .text content =>
    match Text.decode content with
    | [c] => return .int c.toNat
    | chars => Run.raise s!"ord: string encodes {chars.length} Unicode code points, want 1"
  | .bytes [byte] => return .int byte.toNat
  | .bytes content => Run.raise s!"ord: bytes has length {content.length}, want 1"
  | other => Run.raise s!"ord: got {other.typeName}, want string or bytes"

/-- A number that stands for a text or for bytes and is always the same. -/
def hash (arguments : Arguments) : Run Object := do
  match (← arguments.unnamed "hash" 1 [.anything]).headD .none with
  | .text content =>
    let total := (Text.decode content).foldl
      (fun (total : Nat) c => (31 * total + c.toNat) % 0x100000000) 0
    return .int (if 0x80000000 ≤ total then (total : Int) - 0x100000000 else total)
  | .bytes content =>
    return .int (content.foldl
      (fun (total : UInt32) byte => (total ^^^ byte.toUInt32) * 16777619) 2166136261).toNat
  | other => Run.raise s!"hash: got {other.typeName}, want string or bytes"

/-- The least or the greatest of several things, by a key if one is given. -/
def extremum (invoke : Invoke) (name : String) (arguments : Arguments) : Run Object := do
  if arguments.positional.isEmpty then
    Run.raise (name ++ " requires at least one positional argument")
  let found ← Arguments.byName name { named := arguments.named } [⟨"key", true, .callable⟩]
  let key := found.headD none
  let keyOf (object : Object) : Run Object :=
    match key with
    | some key => invoke key [object]
    | none => return object
  let source := match arguments.positional with
    | [source] => source
    | several => .tuple several
  match ← Run.items? source with
  | none => Run.raise s!"{name}: {source.typeName} value is not iterable"
  | some [] => Run.raise (name ++ ": argument is an empty sequence")
  | some (first :: rest) =>
    let operator : BinaryOperator := if name = "max" then .greater else .less
    Run.visiting source do
      let mut best := first
      let mut bestKey ← keyOf first
      for object in rest do
        let key ← keyOf object
        if ← Run.blame name (Run.compare operator key bestKey) then
          best := object
          bestKey := key
      return best

/-- Things in the order of their keys, while it is made: those that are in order, the last one
first, and what went wrong last.
-/
structure Sorting where
  done : List (Object × Object) := []
  fault : Option String := none

/-- Puts a thing among those that are in order, behind those that it may not precede. -/
def Sorting.insert (isReverse : Bool) (entry : Object × Object)
    : List (Object × Object) → Option String → Run Sorting
  | [], fault => return ⟨[entry], fault⟩
  | last :: others, fault => do
    let comparison :=
      if isReverse then Run.compare .less last.1 entry.1 else Run.compare .less entry.1 last.1
    let (isBefore, fault) ← tryCatch (do pure (← comparison, fault)) fun failure =>
      match failure with
      | .raised message => pure (false, some message)
      | other => throw other
    if isBefore then
      let inner ← Sorting.insert isReverse entry others fault
      return ⟨last :: inner.done, inner.fault⟩
    else return ⟨entry :: last :: others, fault⟩

/-- A list of things in order. -/
def sorted (invoke : Invoke) (arguments : Arguments) : Run Object := do
  let found ← arguments.byName "sorted"
    [⟨"iterable", false, .iterable⟩, ⟨"key", true, .callable⟩, ⟨"reverse", true, .bool⟩]
  let source := (found.headD none).getD .none
  let things ← items source
  let keys ← match found.getD 1 none with
    | some key => Run.visiting source (things.mapM fun object => invoke key [object])
    | none => pure things
  let isReverse := match found.getD 2 none with
    | some (.bool value) => value
    | _ => false
  let mut sorting : Sorting := {}
  for entry in keys.zip things do
    sorting ← Sorting.insert isReverse entry sorting.done sorting.fault
  match sorting.fault with
  | some message => Run.raise message
  | none => Run.newList (sorting.done.reverse.map (·.2))

/-- Rows made of the items of several things, as long as all have one more. -/
def rows : List (List Object) → Nat → List (List Object)
  | _, 0 => []
  | columns, count + 1 =>
    columns.filterMap List.head? :: rows (columns.map (List.drop 1)) count

/-- Tuples of the items of several things. -/
def zip (arguments : Arguments) : Run Object := do
  if !arguments.named.isEmpty then Run.raise "zip does not accept keyword arguments"
  let numbered := (List.range arguments.positional.length).zip arguments.positional
  let columns ← numbered.mapM fun (number, source) => do
    match ← Run.course? source with
    | some course => pure course
    | none => Run.raise s!"zip: argument #{number + 1} is not iterable: {source.typeName}"
  let count := ((columns.map Course.length).min?).getD 0
  Run.makeRoom (count * columns.length)
  Run.newList ((rows (columns.map (Course.take count)) count).map .tuple)

/-- Numbers from one to another in steps. -/
def range (arguments : Arguments) : Run Object := do
  match ← arguments.unnamed "range" 1 [.int, .int, .int] with
  | [.int stop] => return .range 0 stop 1
  | [.int start, .int stop] => return .range start stop 1
  | [.int start, .int stop, .int step] =>
    if step = 0 then Run.raise "range: step argument must not be zero"
    return .range start stop step
  | _ => return .none

/-- A member of a thing by its name, or something else. -/
def getattr (arguments : Arguments) : Run Object := do
  match ← arguments.unnamed "getattr" 2 [.anything, .text, .anything] with
  | object :: .text name :: otherwise =>
    let name := String.ofList (Text.decode name)
    match ← Access.method? object name, otherwise with
    | some found, _ => return found
    | none, [other] => return other
    | none, _ => Run.raise s!"getattr: {object.typeName} has no .{name} field or method"
  | _ => return .none

/-- A thing has a member of a name. -/
def hasattr (arguments : Arguments) : Run Object := do
  match ← arguments.unnamed "hasattr" 2 [.anything, .text] with
  | [object, .text name] =>
    return .bool ((Access.methodNames object).contains (String.ofList (Text.decode name)))
  | _ => return .none

/-- A set of the items of a thing. -/
def set (arguments : Arguments) : Run Object := do
  let given ← arguments.unnamed "set" 0 [.iterable]
  let course := (← Run.course? (given.headD (.tuple []))).getD (.items [])
  let address ← Run.allocate (.set #[] 0)
  Run.blame "set" (course.forM (Run.putItem address))
  return .set address

/-- A text that shows a thing. -/
def str (arguments : Arguments) : Run Object := do
  match ← arguments.exactlyOne "str" "exactly 1" with
  | .bytes content => return .text (Text.encode (Text.decode content))
  | object => return .text (← Run.plainBytes object)

/-- The size of a number, whatever its sign. -/
def abs (arguments : Arguments) : Run Object := do
  match (← arguments.unnamed "abs" 1 [.anything]).headD .none with
  | .int value => return .int value.natAbs
  | .float value => return .float value.abs
  | other => Run.raise s!"got {other.typeName}, want int or float"

/-- Whether one item, or all of them, count as true. -/
def anyTrue (wanted : Bool) (source : Object) : Run Object := do
  let course := (← Run.course? source).getD (.items [])
  let found ← course.find? fun item => do
    return if (← Run.truth item) == wanted then some wanted else none
  return .bool (found.getD !wanted)

/-- Calls a function that is always there. -/
def call (invoke : Invoke) (name : String) (arguments : Arguments) : Run Object := do
  let one (want : Want) : Run Object := return (← arguments.unnamed name 1 [want]).headD .none
  let maybe : Run (List Object) := do
    items ((← arguments.unnamed name 0 [.iterable]).headD (.tuple []))
  match name with
  | "abs" => abs arguments
  | "all" => anyTrue false (← one .iterable)
  | "any" => anyTrue true (← one .iterable)
  | "bool" =>
    let given ← arguments.unnamed name 0 [.anything]
    return .bool (← Run.truth (given.headD (.bool false)))
  | "bytes" => bytes arguments
  | "chr" => chr arguments
  | "dict" =>
    let count := arguments.positional.length
    if 1 < count then Run.raise s!"dict: got {count} arguments, want at most 1"
    let address ← Run.allocate (.dict #[] 0)
    Run.blame name (updateDict address arguments)
    return .dict address
  | "dir" =>
    let object ← arguments.exactlyOne name "1"
    Run.newList ((Access.methodNames object).map Object.ofString)
  | "enumerate" =>
    match ← arguments.unnamed name 1 [.iterable, .int] with
    | source :: more =>
      let start : Int := match more with
        | [.int start] => start
        | _ => 0
      let things ← items source
      Run.newList (((List.range things.length).zip things).map fun (number, object) =>
        .tuple [.int (start + number), object])
    | [] => return .none
  | "fail" =>
    let message ← sentence name arguments false
    Run.raise ("fail: " ++ String.ofList (Text.decode message))
  | "float" => float arguments
  | "getattr" => getattr arguments
  | "hasattr" => hasattr arguments
  | "hash" => hash arguments
  | "int" => int arguments
  | "len" =>
    let object ← one .anything
    match ← Run.length? object with
    | some length => return .int length
    | none => Run.raise s!"len: value of type {object.typeName} has no len"
  | "list" => Run.newList (← maybe)
  | "max" => extremum invoke name arguments
  | "min" => extremum invoke name arguments
  | "ord" => ord arguments
  | "print" => print arguments
  | "range" => range arguments
  | "repr" => return Object.ofString (← Run.render (← one .anything))
  | "reversed" => Run.newList (← items (← one .iterable)).reverse
  | "set" => set arguments
  | "sorted" => sorted invoke arguments
  | "str" => str arguments
  | "tuple" => return .tuple (← maybe)
  | "type" => return Object.ofString (← arguments.exactlyOne name "exactly 1").typeName
  | _ => zip arguments

/-- Calls a method. -/
def callMethod (name : String) (owner : Object) (arguments : Arguments) : Run Object := do
  match owner with
  | .text content => TextMethod.call name content arguments
  | .bytes content =>
    arguments.none name
    return .byteNumbers content
  | .list address => ListMethod.call name address arguments
  | .dict address => DictMethod.call name address arguments
  | .set address => SetMethod.call name address arguments
  | _ => return .none

/-- A thing as an argument of a function that reads the tape. What matters is its kind, and what it
holds only if it is a number. Whatever is no data counts as a function.
-/
def probeArgument : Object → Value
  | .none => .none
  | .bool value => .bool value
  | .int value => .int value
  | .float value => .float value
  | .text _ => .text ""
  | .bytes _ => .bytes []
  | .tuple _ => .tuple []
  | .list _ => .list []
  | .dict _ => .dict []
  | .set _ => .dict []
  | _ => .function "" 0

/-- Calls a function that reads the tape. It takes no named arguments. -/
def callProbe (name : String) (arguments : Arguments) : Run Object := do
  match callTap (← get).tape name (arguments.positional.map probeArgument), arguments.named with
  | .error (.badArguments message), _ => Run.raise message
  | .error .notData, _ => throw .breakdown
  | _, (key, _) :: _ =>
    Run.raise ("no such keyword argument: " ++ String.ofList (Text.decode key))
  | .error .tooWide, _ => throw .breakdown
  | .error .unknown, _ => return .none
  | .ok (.int value), _ => return .int value
  | .ok (.bytes content), _ => return .bytes content
  | .ok _, _ => return .none

end Builtin

end TapeMachine.Shell
