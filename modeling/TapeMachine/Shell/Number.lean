import TapeMachine.Decimal.Nearest
import TapeMachine.Decimal.Shortest

/-!
Arithmetic of the debug shell where whole and floating-point numbers meet. All of it is exact up to
the last step, in which a result is rounded.
-/

namespace TapeMachine.Shell.Number

/-- A finite floating-point number as a fraction, whose denominator is a power of two. -/
def fraction? (x : Float) : Option (Int × Nat) :=
  match Decimal.Shape.ofFloat x with
  | .finite parts =>
    let size : Int := parts.mantissa * Nat.pow 2 parts.exponent.toNat
    some (if parts.isNegative then -size else size, Nat.pow 2 (-parts.exponent).toNat)
  | _ => none

/-- The order of floating-point numbers. What is no number is equal to itself and above all. -/
def order (x y : Float) : Ordering :=
  if y < x then .gt
  else if x < y then .lt
  else if x == y then .eq
  else if x == x then .lt
  else if y == y then .gt
  else .eq

/-- The order of a whole and a floating-point number. -/
def orderMixed (n : Int) (x : Float) : Ordering :=
  match fraction? x with
  | some (top, bottom) => compare (n * bottom) top
  | none => if x.isNaN || 0 < x then .lt else .gt

/-- The floating-point number nearest to a whole number, if that is finite. -/
def ofInt? (n : Int) : Option Float :=
  let size := Decimal.nearest n.natAbs 0
  if size.isInf then none else some (if n < 0 then -size else size)

/-- A floating-point number without what is behind the point, or why there is no such number. -/
def truncate (x : Float) : Except String Int :=
  match fraction? x with
  | some (top, bottom) => .ok (top.tdiv bottom)
  | none =>
    if x.isNaN then .error "cannot convert float NaN to integer"
    else .error "cannot convert float infinity to integer"

/-- The remainder of a division toward zero. -/
def remainder (x y : Float) : Float :=
  match fraction? x, fraction? y with
  | some (a, da), some (b, db) =>
    let scale := max da db
    let left := a.natAbs * (scale / da)
    let right := b.natAbs * (scale / db)
    let size := Float.scaleB (Float.ofNat (left % right)) (-(Nat.log2 scale : Int))
    if x.toBits.toNat < 0x8000000000000000 then size else -size
  | some _, none => if y.isInf then x else 0.0 / 0.0
  | none, _ => 0.0 / 0.0

/-- The remainder of a division downwards: it has the sign of the divisor. -/
def modulo (x y : Float) : Float :=
  let z := remainder x y
  if (x < 0) != (y < 0) && z != 0 then z + y else z

/-- A quotient rounded to the nearest whole number, a half to the even one. -/
def roundHalfEven (top bottom : Nat) : Nat :=
  let quotient := top / bottom
  let twice := 2 * (top % bottom)
  if bottom < twice || (twice = bottom && quotient % 2 = 1) then quotient + 1 else quotient

/-- Digits with zeros in front, so that there are at least as many as wanted. -/
def padded (width number : Nat) : List Char :=
  let digits := Nat.toDigits 10 number
  List.replicate (width - digits.length) '0' ++ digits

/-- The sign of a floating-point number, where zero has one too. -/
def signText (x : Float) : String :=
  if x.toBits.toNat < 0x8000000000000000 then "" else "-"

/-- A floating-point number with six digits behind the point. -/
def fixed (x : Float) : String :=
  let (top, bottom) := (fraction? x).getD (0, 1)
  let digits := padded 7 (roundHalfEven (top.natAbs * 1000000) bottom)
  let whole := digits.length - 6
  signText x ++ String.ofList (digits.take whole ++ '.' :: digits.drop whole)

/-- The decimal exponent of a fraction that is not zero, not above a bound. -/
def decimalExponent (top bottom : Nat) : Nat → Int → Int
  | 0, exponent => exponent
  | fuel + 1, exponent =>
    let fits : Bool :=
      if 0 ≤ exponent then bottom * Nat.pow 10 exponent.toNat ≤ top
      else bottom ≤ top * Nat.pow 10 exponent.natAbs
    if fits then exponent else decimalExponent top bottom fuel (exponent - 1)

/-- A floating-point number with one digit in front of the point, six behind it, and a power of
ten.
-/
def scientific (mark : Char) (x : Float) : String :=
  let (top, bottom) := (fraction? x).getD (0, 1)
  let size := top.natAbs
  let exponent : Int := if size = 0 then 0 else decimalExponent size bottom 650 309
  let shift := exponent - 6
  let scaled :=
    if 0 ≤ shift then roundHalfEven size (bottom * Nat.pow 10 shift.toNat)
    else roundHalfEven (size * Nat.pow 10 shift.natAbs) bottom
  let (scaled, exponent) :=
    if scaled = 10000000 then (1000000, exponent + 1) else (scaled, exponent)
  let digits := padded 7 scaled
  signText x ++ String.ofList (digits.take 1 ++ '.' :: digits.drop 1
    ++ [mark, if exponent < 0 then '-' else '+'] ++ padded 2 exponent.natAbs)

/-- The text of a number that is not finite. -/
def unboundedText (x : Float) : String :=
  if x.isNaN then "nan" else if 0 < x then "+inf" else "-inf"

/-- The text of a floating-point number: the fewest digits that read back, and a sign that it is no
whole number.
-/
def text (x : Float) : String :=
  if x.isNaN || x.isInf then unboundedText x
  else
    let plain := Decimal.text x
    if plain.all fun c => c.isDigit || c == '-' then plain ++ ".0" else plain

/-- The text of a floating-point number in a notation that a letter stands for. -/
def formatted (letter : Char) (x : Float) : String :=
  if x.isNaN || x.isInf then unboundedText x
  else
    match letter with
    | 'e' => scientific 'e' x
    | 'E' => scientific 'E' x
    | 'f' => fixed x
    | 'g' => text x
    | 'G' => (text x).map Char.toUpper
    | other => "%" ++ String.singleton other

end TapeMachine.Shell.Number
