/-!
The floating-point number nearest to a decimal one.
-/

namespace TapeMachine.Decimal

/-- The floating-point number nearest to `digits * 10 ^ exponent`; an infinite one, if that is too
great for any other.
-/
def nearest (digits : Nat) (exponent : Int) : Float :=
  let magnitude := ((Nat.toDigits 10 digits).length : Int) + exponent
  if digits = 0 || magnitude < -400 then 0
  else if 400 < magnitude then 1.0 / 0.0
  else Float.ofScientific digits (exponent < 0) exponent.natAbs

/-- What a run of decimal digits spells. -/
def spelled (digits : List Char) : Nat :=
  digits.foldl (fun value c => value * 10 + (c.toNat - '0'.toNat)) 0

/-- The number that decimal digits with a point and an exponent spell: `12`, `1.5`, `.5`, `1.`,
`1e3`, `1.5E-3`. There must be a digit in front of the exponent, and one in it.
-/
def read? (chars : List Char) : Option Float :=
  let whole := chars.takeWhile Char.isDigit
  let rest := chars.dropWhile Char.isDigit
  let (fraction, rest) := match rest with
    | '.' :: tail => (tail.takeWhile Char.isDigit, tail.dropWhile Char.isDigit)
    | _ => ([], rest)
  let number (exponent : Int) : Option Float :=
    if whole.isEmpty && fraction.isEmpty then none
    else some (nearest (spelled (whole ++ fraction)) (exponent - fraction.length))
  let signed (sign : Int) (digits : List Char) : Option Float :=
    if digits.isEmpty || !digits.all Char.isDigit then none else number (sign * spelled digits)
  match rest with
  | [] => number 0
  | mark :: power =>
    if mark ≠ 'e' && mark ≠ 'E' then none
    else
      match power with
      | '-' :: digits => signed (-1) digits
      | '+' :: digits => signed 1 digits
      | digits => signed 1 digits

/-- The floating-point number nearest to `mantissa * 2 ^ exponent`. A half is five tenths, so powers
of two below one are powers of ten with a factor.
-/
def nearestBinary (mantissa : Nat) (exponent : Int) : Float :=
  let magnitude := (Nat.log2 mantissa : Int) + exponent
  if mantissa = 0 || magnitude < -1200 then 0
  else if 1200 < magnitude then 1.0 / 0.0
  else if 0 ≤ exponent then nearest (mantissa * Nat.pow 2 exponent.toNat) 0
  else nearest (mantissa * Nat.pow 5 exponent.natAbs) exponent

end TapeMachine.Decimal
