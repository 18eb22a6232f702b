import TapeMachine.Settings.Arithmetic
import TapeMachine.Settings.Value
import TapeMachine.Text.Blank
import TapeMachine.Text.Case
import TapeMachine.Text.Quoted

/-!
The packages that a text may import, and what their functions give for data. A function that says
yes or no may be called without its first argument; it then describes all data to which it says yes.
-/

namespace TapeMachine.Settings

namespace Value

/-- A text. -/
def text (chars : List Char) : Value := .atom (.text (String.ofList chars))

/-- A list of texts. -/
def texts (pieces : List (List Char)) : Value := .list (pieces.map text) false

/-- An integer. -/
def int (value : Int) : Value := .atom (.int value)

/-- A truth value. -/
def bool (value : Bool) : Value := .atom (.bool value)

/-- A number, as an integer if its value is whole. -/
def number (value : Number) : Value := .atom (.number value.wholeIfPossible)

/-- The number that a value is. -/
def number? : Value → Option Number
  | .scalar (.atom (.number value)) => some value
  | _ => none

/-- The text that a value is. -/
def text? : Value → Option String
  | .scalar (.atom (.text value)) => some value
  | _ => none

/-- The elements of the list that a value is. -/
def items? : Value → Option (List Value)
  | .list items _ => some items
  | _ => none

/-- The atom that a value is. -/
def atom? : Value → Option Atom
  | .scalar (.atom value) => some value
  | _ => none

mutual

/-- The datum that a value is, with every choice settled. -/
def datum? : Value → Option Value
  | .scalar (.atom value) => some (.scalar (.atom value))
  | .list items isOpen => (data? items).map (.list · isOpen)
  | .record fields true => (fieldData? fields).map (.record · true)
  | .choice _ preferred =>
    match data? preferred with
    | some [value] => some value
    | _ => none
  | _ => none

/-- The data that values are. -/
def data? : List Value → Option (List Value)
  | [] => some []
  | value :: rest => do return (← datum? value) :: (← data? rest)

/-- The data of fields. -/
def fieldData? : List (FieldName × Value) → Option (List (FieldName × Value))
  | [] => some []
  | (name, value) :: rest => do return (name, ← datum? value) :: (← fieldData? rest)

end

mutual

/-- An expression for a datum. -/
def toExpr : Value → Expr
  | .scalar (.atom value) => .atom value
  | .list items _ => .list (toExprs items) none
  | .record fields _ => .record (toDeclarations fields)
  | _ => .never

/-- Expressions for data. -/
def toExprs : List Value → List Expr
  | [] => []
  | value :: rest => toExpr value :: toExprs rest

/-- Declarations of fields with data. -/
def toDeclarations : List (FieldName × Value) → List Declaration
  | [] => []
  | (name, value) :: rest =>
    .field name false none .present (toExpr value) :: toDeclarations rest

end

end Value

namespace Package

/-- The paths of the packages that there are. -/
def paths : List String :=
  ["crypto/ed25519", "crypto/hmac", "crypto/md5", "crypto/sha1", "crypto/sha256", "crypto/sha512",
    "encoding/base64", "encoding/csv", "encoding/hex", "encoding/json", "encoding/openapi",
    "encoding/pem", "encoding/toml", "encoding/yaml", "html", "list", "math", "math/bits", "net",
    "path", "regexp", "strconv", "strings", "struct", "text/tabwriter", "text/template", "time",
    "tool", "tool/cli", "tool/exec", "tool/file", "tool/http", "tool/os", "uuid"]

/-- The members of packages that are data. -/
def constant? (path name : String) : Option Atom :=
  let scaled (digits : Int) : Option Atom := some (.number ⟨false, digits, -62⟩)
  match path, name with
  | "math", "Pi" => scaled 314159265358979323846264338327950288419716939937510582097494459
  | "math", "E" => scaled 271828182845904523536028747135266249775724709369995957496696763
  | "math", "Phi" => scaled 161803398874989484820458683436563811772030917980576286213544862
  | "math", "Sqrt2" => scaled 141421356237309504880168872420969807856967187537694807317667974
  | "math", "Ln2" => scaled 69314718055994530941723212145817656807550013436025525412068001
  | "math", "Ln10" => scaled 230258509299404568401799145468436420760110148862877297603332790
  | _, _ => none

/-- The functions that say yes or no about their first argument. -/
def test? (path name : String) : Option Test :=
  match path, name with
  | "strings", "MinRunes" => some .minChars
  | "strings", "MaxRunes" => some .maxChars
  | "strings", "Contains" => some .contains
  | "strings", "ContainsAny" => some .containsAny
  | "strings", "HasPrefix" => some .begins
  | "strings", "HasSuffix" => some .ends
  | "math", "MultipleOf" => some .multiple
  | "list", "MinItems" => some .minItems
  | "list", "MaxItems" => some .maxItems
  | "struct", "MinFields" => some .minFields
  | "struct", "MaxFields" => some .maxFields
  | _, _ => none

/-- The limit of a test is of the right kind. -/
def isLimit (test : Test) (limit : Atom) : Bool :=
  match test, limit with
  | .contains, .text _ => true
  | .containsAny, .text _ => true
  | .begins, .text _ => true
  | .ends, .text _ => true
  | .multiple, .number number => number.digits ≠ 0
  | .contains, _ => false
  | .containsAny, _ => false
  | .begins, _ => false
  | .ends, _ => false
  | _, .number number => number.isInteger
  | _, _ => false

/-- What a test says. -/
def examine? (test : Test) : List Value → Option Value
  | [limit] => do
    let limit ← limit.atom?
    if isLimit test limit then some (.scalar (.described test.kinds [⟨.passing test, limit⟩]))
    else none
  | [value, limit] => do
    let limit ← limit.atom?
    if !isLimit test limit then none
    match value with
    | .scalar (.atom atom) =>
      if test.kinds.contains atom.kind then some (.bool (test.passes atom limit)) else none
    | .list items _ =>
      if test.kinds.contains .list then some (.bool (test.passesCount items.length false limit))
      else none
    | .record fields _ =>
      let count := (fields.filter fun (name, _) => name.plain?.isSome).length
      if test.kinds.contains .record then some (.bool (test.passesCount count false limit))
      else none
    | _ => none
  | _ => none

/-- The pieces of a text between parts, or its characters if the part is empty. At most so many
pieces are made, unless the number is negative.
-/
def split (chars part : List Char) (most : Int) : List (List Char) :=
  if most = 0 then []
  else
    let cuts := if most < 0 then chars.length else most.toNat - 1
    if part.isEmpty then
      (chars.take cuts).map ([·]) ++ (if chars.length ≤ cuts then [] else [chars.drop cuts])
    else Text.piecesBetween part cuts chars

/-- A text between characters, at most so many times. -/
def interleave (new : List Char) : Nat → List Char → List Char
  | 0, chars => chars
  | _ + 1, [] => new
  | most + 1, c :: rest => new ++ c :: interleave new most rest

/-- A text with parts replaced, at most so many unless the number is negative. -/
def replace (chars old new : List Char) (most : Int) : List Char :=
  let most := if most < 0 then chars.length + 1 else most.toNat
  if old.isEmpty then interleave new most chars
  else Text.joinedBy new (Text.piecesBetween old most chars)

/-- A text with what stands first and behind blanks changed. -/
def changeStarts (change : Char → Char) : Bool → List Char → List Char
  | _, [] => []
  | isStart, c :: rest =>
    (if isStart then change c else c) :: changeStarts change (Text.isBlank c) rest

/-- The place of a part in bytes, or minus one. -/
def bytePlace (text : String) : Option Nat → Value
  | some place => .int (String.ofList (text.toList.take place)).utf8ByteSize
  | none => .int (-1)

/-- The texts that values are. -/
def texts? (values : List Value) : Option (List (List Char)) :=
  values.mapM fun value => value.text?.map String.toList

/-- The functions of one text. -/
def onText? (name : String) (text : String) : Option Value :=
  let chars := text.toList
  match name with
  | "ToUpper" => some (.text (chars.map Text.upperCase))
  | "ToLower" => some (.text (chars.map Text.lowerCase))
  | "ToTitle" => some (.text (changeStarts Text.upperCase true chars))
  | "ToCamel" => some (.text (changeStarts Text.lowerCase true chars))
  | "TrimSpace" => some (.atom (.text (Text.trim text)))
  | "Fields" => some (.texts (Text.words chars))
  | "Runes" => some (.list (chars.map fun c => .int c.toNat) false)
  | _ => none

/-- The functions of two texts. -/
def onTexts? (name : String) (text other : String) : Option Value :=
  let chars := text.toList
  let part := other.toList
  let trimStart (chars : List Char) : List Char := chars.dropWhile part.contains
  let trimEnd (chars : List Char) : List Char := (trimStart chars.reverse).reverse
  match name with
  | "Split" => some (.texts (split chars part (-1)))
  | "SplitAfter" =>
    let pieces := split chars part (-1)
    let ended := pieces.dropLast.map (· ++ part)
    some (.texts (ended ++ pieces.drop (pieces.length - 1)))
  | "Count" =>
    let count := if part.isEmpty then chars.length + 1 else (split chars part (-1)).length - 1
    some (.int count)
  | "Index" => some (bytePlace text (Text.findPart? part chars))
  | "LastIndex" => some (bytePlace text (Text.findLastPart? part chars))
  | "IndexAny" => some (bytePlace text (chars.findIdx? part.contains))
  | "LastIndexAny" =>
    let place := (chars.reverse.findIdx? part.contains).map (chars.length - 1 - ·)
    some (bytePlace text place)
  | "Compare" =>
    match compare text other with
    | .lt => some (.int (-1))
    | .eq => some (.int 0)
    | .gt => some (.int 1)
  | "Trim" => some (.text (trimEnd (trimStart chars)))
  | "TrimLeft" => some (.text (trimStart chars))
  | "TrimRight" => some (.text (trimEnd chars))
  | "TrimPrefix" => some (.text (Text.withoutStart part chars))
  | "TrimSuffix" => some (.text (Text.withoutEnd part chars))
  | _ => none

/-- The functions of texts. -/
def ofStrings? (name : String) (arguments : List Value) : Option Value :=
  match arguments with
  | [.scalar (.atom (.text text))] => onText? name text
  | [.scalar (.atom (.text text)), .scalar (.atom (.text other))] => onTexts? name text other
  | [.scalar (.atom (.text text)), .scalar (.atom (.number count))] =>
    if name = "Repeat" then (repeat? count text.toList).map .text else none
  | [.list items false, .scalar (.atom (.text between))] =>
    if name = "Join" then
      (texts? items).map fun pieces => .text (Text.joinedBy between.toList pieces)
    else none
  | [.scalar (.atom (.text text)), .scalar (.atom (.text part)),
      .scalar (.atom (.number ⟨true, most, _⟩))] =>
    if name = "SplitN" then some (.texts (split text.toList part.toList most)) else none
  | [.scalar (.atom (.text text)), .scalar (.atom (.number ⟨true, start, _⟩)),
      .scalar (.atom (.number ⟨true, stop, _⟩))] =>
    if name = "SliceRunes" && 0 ≤ start && start ≤ stop && stop ≤ text.length then
      some (.text ((text.toList.take stop.toNat).drop start.toNat))
    else none
  | [.scalar (.atom (.text text)), .scalar (.atom (.text old)), .scalar (.atom (.text new)),
      .scalar (.atom (.number ⟨true, most, _⟩))] =>
    if name = "Replace" then some (.text (replace text.toList old.toList new.toList most)) else none
  | _ => none

/-- A number without its fraction, rounded as the first argument says for a fraction that is not
zero: whether the size goes up, given the whole part and how the fraction compares with a half.
-/
def roundedBy (goesUp : Nat → Ordering → Bool) (x : Number) : Int :=
  if 0 ≤ x.exponent then x.floor
  else if 400 < x.exponent.natAbs && x.magnitude < 0 then 0
  else
    let unit := Nat.pow 10 x.exponent.natAbs
    let whole := x.digits.natAbs / unit
    let size := if goesUp whole (compare (2 * (x.digits.natAbs % unit)) unit) then whole + 1
      else whole
    if x.digits < 0 then -(size : Int) else size

/-- A number multiplied with itself. -/
def power? (x : Number) : Nat → Option Number
  | 0 => some (.ofInt 1)
  | exponent + 1 => (power? x exponent).bind x.multiply?

/-- The functions of numbers. -/
def ofMath? (name : String) (arguments : List Number) : Option Value :=
  match name, arguments with
  | "Abs", [x] => some (.number (if x.digits < 0 then x.negate else x))
  | "Floor", [x] => some (.int x.floor)
  | "Ceil", [x] => some (.int x.ceiling)
  | "Trunc", [x] => some (.int (roundedBy (fun _ _ => false) x))
  | "Round", [x] => some (.int (roundedBy (fun _ half => half != .lt) x))
  | "RoundToEven", [x] =>
    some (.int (roundedBy (fun whole half => half == .gt || (half == .eq && whole % 2 = 1)) x))
  | "Pow", [x, ⟨true, exponent, _⟩] =>
    if 0 ≤ exponent && exponent ≤ 1000 then (power? x exponent.toNat).map .number else none
  | _, _ => none

/-- The functions of numbers and their texts. -/
def ofStrconv? (name : String) (arguments : List Atom) : Option Value :=
  let parse (text : String) (base : Nat) (bits : Nat) : Option Value := do
    let (isNegative, digits) := match text.toList with
      | '-' :: rest => (true, rest)
      | '+' :: rest => (false, rest)
      | chars => (false, chars)
    if digits.isEmpty then none
    let size : Nat ← digitsValue? base digits
    let value : Int := if isNegative then -(size : Int) else size
    let limit : Int := (Nat.pow 2 (bits - 1) : Nat)
    if -limit ≤ value && value < limit then some (.int value) else none
  match name, arguments with
  | "Atoi", [.text text] => parse text 10 64
  | "ParseInt", [.text text, .number ⟨true, base, _⟩, .number ⟨true, bits, _⟩] =>
    if 2 ≤ base && base ≤ 16 && 0 ≤ bits && bits ≤ 64 then
      parse text base.toNat (if bits = 0 then 64 else bits.toNat)
    else none
  | "FormatInt", [.number ⟨true, value, _⟩, .number ⟨true, base, _⟩] =>
    if 2 ≤ base && base ≤ 16 then
      let digits := Nat.toDigits base.toNat value.natAbs
      some (.text (if value < 0 then '-' :: digits else digits))
    else none
  | "ParseBool", [.text text] =>
    if ["1", "t", "T", "true", "TRUE", "True"].contains text then some (.bool true)
    else if ["0", "f", "F", "false", "FALSE", "False"].contains text then some (.bool false)
    else none
  | "FormatBool", [.bool value] => some (.text (if value then "true" else "false").toList)
  | "Quote", [.text text] => some (.text (Text.quoted text).toList)
  | _, _ => none

/-- The greatest of numbers by an order. -/
def greatest? (isAbove : Ordering) : List Number → Option Number
  | [] => none
  | first :: rest =>
    some (rest.foldl (fun best x => if x.order best == isAbove then x else best) first)

/-- The functions of a list of numbers. -/
def onNumbers? (name : String) (numbers : List Number) : Option Value :=
  let total : Option Number :=
    numbers.foldl (fun total x => total.bind x.add?) (some (.ofInt 0))
  match name with
  | "Sum" => total.map .number
  | "Product" =>
    (numbers.foldl (fun total x => total.bind x.multiply?) (some (.ofInt 1))).map .number
  | "Avg" => do return .number (← (← total).divide? (.ofInt numbers.length))
  | "Max" => (greatest? .gt numbers).map .number
  | "Min" => (greatest? .lt numbers).map .number
  | _ => none

/-- The numbers from one to before another by steps. The natural number bounds how many
there are.
-/
def steps (step limit : Number) : Nat → Number → List Number
  | 0, _ => []
  | fuel + 1, start =>
    if start.order limit == (if step.digits < 0 then .gt else .lt) then
      start :: ((start.add? step).map (steps step limit fuel)).getD []
    else []

/-- Lists in lists laid flat, to a depth. -/
def flatten : Nat → List Value → List Value
  | 0, values => values
  | depth + 1, values => values.flatMap fun value =>
    match value with
    | .list items _ => flatten depth items
    | value => [value]

/-- Two data compared as equal. -/
def areEqual (x y : Value) : Bool :=
  match x, y with
  | .scalar (.atom x), .scalar (.atom y) => Operation.equal.onAtoms? x y == some (.bool true)
  | x, y => x.isSame y

/-- No element is equal to one behind it. -/
def areDistinct : List Value → Bool
  | [] => true
  | value :: rest => !rest.any (areEqual value) && areDistinct rest

/-- The functions of lists. -/
def ofList? (name : String) (arguments : List Value) : Option Value :=
  match name, arguments with
  | "Concat", [.list lists false] =>
    (lists.mapM Value.items?).map fun parts => .list parts.flatten false
  | "Reverse", [.list items false] => some (.list items.reverse false)
  | "UniqueItems", [.list items false] => some (.bool (areDistinct items))
  | "SortStrings", [.list items false] =>
    (items.mapM Value.text?).map fun texts =>
      .list ((texts.mergeSort (· ≤ ·)).map fun text => .atom (.text text)) false
  | "IsSortedStrings", [.list items false] =>
    (items.mapM Value.text?).map fun texts => .bool (texts.mergeSort (· ≤ ·) == texts)
  | "Contains", [.list items false, value] => some (.bool (items.any (areEqual value)))
  | "Take", [.list items false, .scalar (.atom (.number ⟨true, count, _⟩))] =>
    if count < 0 then none else some (.list (items.take count.toNat) false)
  | "Drop", [.list items false, .scalar (.atom (.number ⟨true, count, _⟩))] =>
    if count < 0 then none else some (.list (items.drop count.toNat) false)
  | "Repeat", [.list items false, .scalar (.atom (.number count))] =>
    (repeat? count items).map (.list · false)
  | "FlattenN", [.list items false, .scalar (.atom (.number ⟨true, depth, _⟩))] =>
    some (.list (flatten (if depth < 0 then 1000 else depth.toNat) items) false)
  | "Slice", [.list items false, .scalar (.atom (.number ⟨true, start, _⟩)),
      .scalar (.atom (.number ⟨true, stop, _⟩))] =>
    if 0 ≤ start && start ≤ stop && stop ≤ items.length then
      some (.list ((items.take stop.toNat).drop start.toNat) false)
    else none
  | "Range", [.scalar (.atom (.number start)), .scalar (.atom (.number limit)),
      .scalar (.atom (.number step))] =>
    let isAway := start.order limit == (if step.digits < 0 then .lt else .gt)
    if step.digits = 0 || isAway then none
    else some (.list ((steps step limit 100000 start).map .number) false)
  | name, [.list items false] => (items.mapM Value.number?).bind (onNumbers? name)
  | _, _ => none

/-- A list in ascending or descending order, if its elements have one. -/
def sorted? (isDescending : Bool) (items : List Value) : Option Value := do
  let atoms ← items.mapM Value.atom?
  let isOrdered := atoms.all fun x => atoms.all fun y => (x.order? y).isSome
  let isBefore (x y : Atom) : Bool := x.order? y != some (if isDescending then .lt else .gt)
  if isOrdered then some (.list ((atoms.mergeSort isBefore).map .atom) false) else none

/-- What a function of a package gives for data. -/
def call? (path name : String) (arguments : List Value) : Option Value :=
  match test? path name with
  | some test => examine? test arguments
  | none =>
    match path with
    | "strings" => ofStrings? name arguments
    | "math" => (arguments.mapM Value.number?).bind (ofMath? name)
    | "strconv" => (arguments.mapM Value.atom?).bind (ofStrconv? name)
    | "list" => ofList? name arguments
    | "regexp" =>
      match name, arguments with
      | "Match", [.scalar (.atom (.text pattern)), .scalar (.atom (.text text))] =>
        (Text.Pattern.ofText? pattern).map fun pattern => .bool (pattern.isFoundIn text)
      | _, _ => none
    | _ => none

end Package

end TapeMachine.Settings
