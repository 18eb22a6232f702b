import TapeMachine.Text.Hexadecimal

/-!
The numbers of the settings language. They are exact decimals; an integer and a number with a
fraction are different even where their values agree.
-/

namespace TapeMachine.Settings

/-- The number `digits * 10 ^ exponent`. An integer has exponent zero. -/
structure Number where
  isInteger : Bool
  digits : Int
  exponent : Int := 0
  deriving DecidableEq, Inhabited

namespace Number

/-- An integer. -/
def ofInt (value : Int) : Number := { isInteger := true, digits := value }

/-- The decimal place above the first digit of a number that is not zero. -/
def magnitude (x : Number) : Int :=
  (Nat.toDigits 10 x.digits.natAbs).length + x.exponent

/-- The sizes of two numbers of one sign compared, first by magnitude, so that no great power is
computed unless the numbers are near to each other.
-/
def compareSize (x y : Number) : Ordering :=
  match compare x.magnitude y.magnitude with
  | .eq =>
    let common := min x.exponent y.exponent
    compare (x.digits.natAbs * Nat.pow 10 (x.exponent - common).toNat)
      (y.digits.natAbs * Nat.pow 10 (y.exponent - common).toNat)
  | unequal => unequal

/-- Two numbers compared by value. -/
def order (x y : Number) : Ordering :=
  match compare x.digits.sign y.digits.sign with
  | .eq =>
    match x.digits.sign with
    | 0 => .eq
    | 1 => compareSize x y
    | _ => compareSize y x
  | unequal => unequal

/-- The opposite number. -/
def negate (x : Number) : Number := { x with digits := -x.digits }

/-- The number of significant digits that the result of an operation keeps. -/
def precision : Nat := 34

/-- The greatest exponent that operations go up to. -/
def maxExponent : Int := 100000

/-- A number rounded to the digits that results keep; a half goes away from zero. -/
def rounded (x : Number) : Number :=
  let size := x.digits.natAbs
  let surplus := (Nat.toDigits 10 size).length - precision
  if surplus = 0 then x
  else
    let unit := Nat.pow 10 surplus
    let kept := size / unit + (if unit ≤ 2 * (size % unit) then 1 else 0)
    let digits : Int := if x.digits < 0 then -(kept : Int) else kept
    if x.isInteger then { x with digits := digits * (unit : Int) }
    else { x with digits, exponent := x.exponent + surplus }

/-- Numbers are added or multiplied as integers only if both are integers. -/
def bothIntegers (x y : Number) : Bool := x.isInteger && y.isInteger

/-- The sum of two numbers, if their exponents are not too far apart. -/
def add? (x y : Number) : Option Number :=
  let common := min x.exponent y.exponent
  let shift (z : Number) : Int := z.digits * (Nat.pow 10 (z.exponent - common).toNat : Nat)
  if maxExponent < max x.exponent y.exponent - common then none
  else some (rounded ⟨bothIntegers x y, shift x + shift y, common⟩)

/-- The product of two numbers, if its exponent is not too great. -/
def multiply? (x y : Number) : Option Number :=
  let exponent := x.exponent + y.exponent
  if maxExponent < exponent.natAbs then none
  else some (rounded ⟨bothIntegers x y, x.digits * y.digits, exponent⟩)

/-- A fraction without the zeros at its end, as far as its exponent stays at most `ideal`. The first
argument bounds the number of zeros.
-/
def trimZeros : Nat → Int → Number → Number
  | 0, _, x => x
  | fuel + 1, ideal, x =>
    if x.exponent < ideal && x.digits % 10 = 0 && x.digits ≠ 0 then
      trimZeros fuel ideal { x with digits := x.digits / 10, exponent := x.exponent + 1 }
    else x

/-- The quotient of two numbers, which is never an integer; there is none by zero. -/
def divide? (x y : Number) : Option Number :=
  if y.digits = 0 then none
  else
    let ideal := x.exponent - y.exponent
    let size := (Nat.toDigits 10 y.digits.natAbs).length + precision
    let numerator := x.digits.natAbs * Nat.pow 10 size
    let whole := numerator / y.digits.natAbs
    let isExact := numerator % y.digits.natAbs = 0
    let sign : Int := x.digits.sign * y.digits.sign
    -- A digit that is not zero stands for what the division leaves over.
    let digits : Nat := if isExact then whole else whole * 10 + 1
    let exponent : Int := ideal - size - (if isExact then 0 else 1)
    let quotient := rounded ⟨false, sign * digits, exponent⟩
    some (if isExact then trimZeros (size + precision) ideal quotient else quotient)

/-- The greatest integer that is not above a number. -/
def floor (x : Number) : Int :=
  if 0 ≤ x.exponent then x.digits * (Nat.pow 10 x.exponent.toNat : Nat)
  else if 400 < x.exponent.natAbs && x.magnitude < 0 then (if x.digits < 0 then -1 else 0)
  else Int.fdiv x.digits (Nat.pow 10 x.exponent.natAbs : Nat)

/-- The least integer that is not below a number. -/
def ceiling (x : Number) : Int := -(floor x.negate)

/-- The number is a multiple of another that is not zero. -/
def isMultiple (x unit : Number) : Bool :=
  let common := min x.exponent unit.exponent
  let shift (z : Number) : Nat := z.digits.natAbs * Nat.pow 10 (z.exponent - common).toNat
  unit.digits ≠ 0 && shift x % shift unit = 0

/-- A number whose value is whole, as an integer. -/
def wholeIfPossible (x : Number) : Number :=
  if x.floor = x.ceiling then ofInt x.floor else x

/-- The text of a number: digits with a point, or an exponent if the point would be far away. -/
def render (x : Number) : String :=
  let digits := Nat.toDigits 10 x.digits.natAbs
  let sign := if x.digits < 0 then "-" else ""
  let adjusted : Int := x.exponent + digits.length - 1
  let body := if x.exponent ≤ 0 && -6 ≤ adjusted then
      if x.exponent = 0 then digits
      else
        let places := x.exponent.natAbs
        let padded := List.replicate (places + 1 - digits.length) '0' ++ digits
        padded.take (padded.length - places) ++ '.' :: padded.drop (padded.length - places)
    else
      let front := match digits with
        | first :: second :: rest => first :: '.' :: second :: rest
        | few => few
      front ++ 'E' :: (if adjusted < 0 then '-' else '+') :: Nat.toDigits 10 adjusted.natAbs
  sign ++ String.ofList body

/-- The least positive number that has a floating-point number near it. -/
def leastFloat : Number := ⟨false, 4940656458412465441765687928682213723651, -363⟩

/-- The greatest floating-point number. -/
def greatestFloat : Number := ⟨false, 1797693134862315708145274237317043567981, 269⟩

/-- The floating-point number nearest to a number, unless the number is too great or too near to
zero.
-/
def toFloat? (x : Number) : Option Float :=
  if x.digits = 0 then some 0
  else if compareSize x leastFloat == .lt || compareSize x greatestFloat == .gt then none
  else
    let size := Float.ofScientific x.digits.natAbs (x.exponent < 0) x.exponent.natAbs
    some (if x.digits < 0 then -size else size)

end Number

/-- What a run of digits spells in a base, if every character is a digit of the base. -/
def digitsValue? (base : Nat) (digits : List Char) : Option Nat :=
  digits.foldl (fun total c => do
    let total ← total
    let digit ← Text.hexDigit? c
    if digit < base then some (total * base + digit) else none) (some 0)

/-- Digits without the marks that separate them, if no two marks stand side by side and none at the
end.
-/
def joinDigits : List Char → Option (List Char)
  | [] => some []
  | ['_'] => none
  | '_' :: '_' :: _ => none
  | '_' :: rest => joinDigits rest
  | c :: rest => (joinDigits rest).map (c :: ·)

/-- The factor that a suffix such as `K` or `Ki` stands for, and what follows the suffix. -/
def multiplier? : List Char → Option (Nat × List Char)
  | unit :: rest =>
    match "KMGTP".toList.idxOf? unit with
    | none => none
    | some index =>
      match rest with
      | 'i' :: rest => some (Nat.pow 1024 (index + 1), rest)
      | _ => some (Nat.pow 1000 (index + 1), rest)
  | [] => none

/-- The number that a text begins with in a base other than ten, and what follows it. -/
def scanBased (base : Nat) (chars : List Char) : Option (Number × List Char) := do
  let isPart (c : Char) : Bool := c == '_' || (digitsValue? base [c]).isSome
  let digits ← joinDigits (chars.takeWhile isPart)
  if digits.isEmpty then none
  let value ← digitsValue? base digits
  return (.ofInt value, chars.dropWhile isPart)

/-- The exponent that a text begins with, and what follows it: none if there is no exponent. -/
def scanExponent : List Char → Option (Option Int × List Char)
  | mark :: rest =>
    if mark = 'e' || mark = 'E' then do
      let (isNegative, rest) := match rest with
        | '-' :: rest => (true, rest)
        | '+' :: rest => (false, rest)
        | _ => (false, rest)
      let isPart (c : Char) : Bool := c == '_' || c.isDigit
      let digits ← joinDigits (rest.takeWhile isPart)
      if digits.isEmpty then none
      let value : Nat ← digitsValue? 10 digits
      return (some (if isNegative then -(value : Int) else value), rest.dropWhile isPart)
    else some (none, mark :: rest)
  | [] => some (none, [])

/-- The decimal number that a text begins with, and what follows it. A number with a point or an
exponent is no integer, unless a suffix multiplies it. An integer has no zero in front.
-/
def scanDecimal (chars : List Char) : Option (Number × List Char) := do
  let isPart (c : Char) : Bool := c == '_' || c.isDigit
  let whole := chars.takeWhile isPart
  let rest := chars.dropWhile isPart
  let wholeDigits ← joinDigits whole
  let (hasPoint, fraction, rest) := match rest with
    | '.' :: '.' :: _ => (false, [], rest)
    | '.' :: rest => (true, rest.takeWhile isPart, rest.dropWhile isPart)
    | _ => (false, [], rest)
  let fractionDigits ← joinDigits fraction
  if wholeDigits.isEmpty && fractionDigits.isEmpty then none
  let (exponent, rest) ← scanExponent rest
  let digits : Nat ← digitsValue? 10 (wholeDigits ++ fractionDigits)
  let places : Nat := fractionDigits.length
  match exponent, multiplier? rest with
  | none, some (factor, rest) =>
    if !hasPoint && wholeDigits.head? == some '0' then none
    let product : Nat := digits * factor
    let unit := Nat.pow 10 places
    if product % unit = 0 then some (.ofInt (product / unit : Nat), rest) else none
  | none, none =>
    if hasPoint then some (⟨false, digits, -places⟩, rest)
    else if 1 < wholeDigits.length && wholeDigits.head? == some '0' then none
    else some (.ofInt digits, rest)
  | some exponent, _ =>
    if Number.maxExponent < exponent.natAbs then none
    else some (⟨false, digits, exponent - places⟩, rest)

/-- The number that a text begins with, and what follows it. -/
def scanNumber : List Char → Option (Number × List Char)
  | '0' :: 'x' :: rest => scanBased 16 rest
  | '0' :: 'X' :: rest => scanBased 16 rest
  | '0' :: 'b' :: rest => scanBased 2 rest
  | '0' :: 'o' :: rest => scanBased 8 rest
  | chars => scanDecimal chars

end TapeMachine.Settings
