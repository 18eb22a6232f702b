import TapeMachine.Decimal.Nearest
import TapeMachine.Shell.Token
import TapeMachine.Text.Utf8

/-!
Numbers and texts as they are typed into the debug shell.
-/

namespace TapeMachine.Shell

/-- What is wrong with a literal, and how far behind its beginning that is said. -/
structure LiteralFault where
  offset : Nat
  message : String
  deriving DecidableEq, Inhabited

/-- The value of a digit in bases up to sixteen and beyond. -/
def digitValue? (c : Char) : Option Nat :=
  if c.isDigit then some (c.toNat - '0'.toNat)
  else if 'a' ≤ c ∧ c ≤ 'z' then some (c.toNat - 'a'.toNat + 10)
  else if 'A' ≤ c ∧ c ≤ 'Z' then some (c.toNat - 'A'.toNat + 10)
  else none

/-- The character is a digit in a base. -/
def isDigitIn (base : Nat) (c : Char) : Bool :=
  match digitValue? c with
  | some value => value < base
  | none => false

/-- What digits spell in a base, if there are any and all are digits of the base. -/
def spelledIn? (base : Nat) (digits : List Char) : Option Nat :=
  if digits.isEmpty then none
  else digits.foldlM (fun value c => do
    let digit ← digitValue? c
    if digit < base then some (value * base + digit) else none) 0

namespace Literal

/-- A number with a mark for its base in front: `0x1f`, `0o17`, `0b101`. -/
def based (base : Nat) (name : String) (chars : List Char) : Except LiteralFault (Token × Nat) :=
  let digits := (chars.drop 2).takeWhile (isDigitIn base)
  let length := digits.length + 2
  match spelledIn? base digits with
  | none => .error ⟨if base = 16 then 0 else 2, "invalid " ++ name ++ " literal"⟩
  | some value =>
    if base ≠ 16 && 0x8000000000000000 ≤ value then .error ⟨0, "invalid int literal"⟩
    else .ok (.int value, length)

/-- A number with a point or an exponent, of which so many characters come before that. -/
def fractional (chars : List Char) (whole : Nat) : Except LiteralFault (Token × Nat) :=
  let rest := chars.drop whole
  let fraction := match rest with
    | '.' :: tail => 1 + (tail.takeWhile Char.isDigit).length
    | _ => 0
  let finish (length : Nat) : Except LiteralFault (Token × Nat) :=
    match Decimal.read? (chars.take length) with
    | some value =>
      if value.isInf then .error ⟨length, "invalid float literal"⟩ else .ok (.float value, length)
    | none => .error ⟨length, "invalid float literal"⟩
  match rest.drop fraction with
  | mark :: power =>
    if mark = 'e' || mark = 'E' then
      let sign := match power with
        | '+' :: _ => 1
        | '-' :: _ => 1
        | _ => 0
      let digits := ((power.drop sign).takeWhile Char.isDigit).length
      finish (whole + fraction + 1 + sign + digits)
    else finish (whole + fraction)
  | [] => finish (whole + fraction)

/-- The number that characters begin with, and its length. The first of them is a digit, or a point
with a digit behind it.
-/
def number (chars : List Char) : Except LiteralFault (Token × Nat) :=
  let whole := chars.takeWhile Char.isDigit
  let continues := match chars.drop whole.length with
    | c :: _ => c = '.' || c = 'e' || c = 'E'
    | [] => false
  match chars with
  | '0' :: mark :: _ =>
    if mark = 'x' || mark = 'X' then based 16 "hex" chars
    else if mark = 'o' || mark = 'O' then based 8 "octal" chars
    else if mark = 'b' || mark = 'B' then based 2 "binary" chars
    else if continues then fractional chars whole.length
    else if whole.all (· = '0') then .ok (.int 0, whole.length)
    else if whole.all (· ≤ '7') then
      .error ⟨whole.length,
        "obsolete form of octal literal; use 0o" ++ String.ofList (whole.drop 1)⟩
    else .error ⟨0, "invalid int literal"⟩
  | _ =>
    if continues then fractional chars whole.length
    else .ok (.int (Decimal.spelled whole), whole.length)

/-- The characters that stand for others behind a backslash. -/
def simpleEscapes : List (Char × Char) :=
  [('a', '\x07'), ('b', '\x08'), ('f', '\x0c'), ('n', '\n'), ('r', '\r'), ('t', '\t'),
    ('v', '\x0b'), ('\\', '\\'), ('\'', '\''), ('"', '"')]

/-- A code point as it is named in messages. -/
def codePoint (code : Nat) : String :=
  String.ofList ((Text.hexDigits 4 code).map Char.toUpper)

/-- The byte that up to three octal digits stand for, and what follows them. -/
def octalEscape (isBytes : Bool) (chars : List Char) : Except String (List UInt8 × List Char) :=
  let digits := (chars.take 3).takeWhile (isDigitIn 8)
  let code := (spelledIn? 8 digits).getD 0
  if !isBytes && 127 < code then
    .error ("non-ASCII octal escape \\" ++ String.ofList (Nat.toDigits 8 code) ++ " (use \\u"
      ++ codePoint code ++ " for the UTF-8 encoding of U+" ++ codePoint code ++ ")")
  else if 256 ≤ code then
    .error ("invalid escape sequence \\" ++ String.ofList (Nat.toDigits 8 code))
  else .ok ([UInt8.ofNat code], chars.drop digits.length)

/-- The byte that two hexadecimal digits stand for, and what follows them. -/
def hexEscape (isBytes : Bool) (chars : List Char) : Except String (List UInt8 × List Char) :=
  let written := "\\x" ++ String.ofList (chars.take 2)
  if chars.length < 2 then .error ("truncated escape sequence " ++ written)
  else
    match spelledIn? 16 (chars.take 2) with
    | none => .error ("invalid escape sequence " ++ written)
    | some code =>
      if !isBytes && 127 < code then
        .error ("non-ASCII hex escape " ++ written ++ " (use \\u" ++ codePoint code
          ++ " for the UTF-8 encoding of U+" ++ codePoint code ++ ")")
      else .ok ([UInt8.ofNat code], chars.drop 2)

/-- The character whose code point hexadecimal digits spell, and what follows them. -/
def codeEscape (mark : Char) (chars : List Char) : Except String (List UInt8 × List Char) :=
  let width := if mark = 'u' then 4 else 8
  let written := "\\" ++ String.ofList (mark :: chars.take width)
  if chars.length < width then .error ("truncated escape sequence " ++ written)
  else
    match spelledIn? 16 (chars.take width) with
    | none => .error ("invalid escape sequence " ++ written)
    | some code =>
      if 0x10ffff < code then
        .error ("code point out of range: " ++ written ++ " (max \\U"
          ++ String.ofList (Text.hexDigits 8 code) ++ ")")
      else if 0xd800 ≤ code && code < 0xe000 then
        .error ("invalid Unicode code point U+" ++ codePoint code)
      else .ok (Text.encode [Char.ofNat code], chars.drop width)

/-- The bytes that characters between quotes stand for. The first argument bounds their number. -/
def unescape (isBytes : Bool) : Nat → List Char → Except String (List UInt8)
  | 0, _ => .ok []
  | _ + 1, [] => .ok []
  | _ + 1, ['\\'] => .error "truncated escape sequence \\"
  | fuel + 1, '\\' :: mark :: rest =>
    let go (piece : Except String (List UInt8 × List Char)) : Except String (List UInt8) := do
      let (bytes, rest) ← piece
      return bytes ++ (← unescape isBytes fuel rest)
    match simpleEscapes.lookup mark with
    | some c => go (.ok (Text.encode [c], rest))
    | none =>
      if mark = '\n' then unescape isBytes fuel rest
      else if isDigitIn 8 mark then go (octalEscape isBytes (mark :: rest))
      else if mark = 'x' then go (hexEscape isBytes rest)
      else if mark = 'u' || mark = 'U' then go (codeEscape mark rest)
      else
        let shown := (Text.encode [mark]).head?.map fun byte => Char.ofNat byte.toNat
        .error ("invalid escape sequence \\" ++ String.singleton (shown.getD mark))
  | fuel + 1, c :: rest => do
    return Text.encode [c] ++ (← unescape isBytes fuel rest)

/-- What stands between the quotes of a literal; a text in three quotes has three on each side. -/
def inner (chars : List Char) : Except String (List Char) :=
  match chars with
  | [] => .error "string literal too short"
  | [_] => .error "string literal too short"
  | quote :: rest =>
    if rest.getLast? ≠ some quote || (quote ≠ '"' && quote ≠ '\'') then
      .error "string literal has invalid quotes"
    else
      let three := [quote, quote, quote]
      if 6 ≤ chars.length && three.isPrefixOf chars && three.isSuffixOf chars then
        .ok ((chars.drop 3).take (chars.length - 6))
      else .ok rest.dropLast

/-- The token of a text in quotes, with the letters in front of it that say how it is to be read:
`r` for backslashes that stand for themselves, `b` for bytes.
-/
def quotation (written : List Char) : Except String Token := do
  let (isRaw, written) := match written with
    | 'r' :: rest => (true, rest)
    | _ => (false, written)
  let (isBytes, written) := match written with
    | 'b' :: rest => (true, rest)
    | _ => (false, written)
  let chars ← inner written
  let content ← if isRaw then pure (Text.encode chars) else unescape isBytes chars.length chars
  return if isBytes then .bytes content else .text content

end Literal

end TapeMachine.Shell
