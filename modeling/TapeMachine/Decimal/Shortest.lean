/-!
The fewest decimal digits that read back as a given binary floating-point number. The number is
taken apart into `m * 2 ^ q`; the decimals that read back as it are those in an interval around it
whose ends belong to it exactly when `m` is even. For one digit, two digits and so on, the two
neighbours of the number on that decimal grid are tested in exact arithmetic: the first grid with
a neighbour in the interval wins, and of two such neighbours the nearer.
-/

namespace TapeMachine.Decimal

/-- The decimal number `digits * 10 ^ exponent`. -/
structure Scientific where
  digits : Nat
  exponent : Int
  deriving DecidableEq, Inhabited

/-- Three fractions with one denominator: a number and the ends of the interval of all reals that
are nearer to it than to its neighbours.
-/
structure Interval where
  low : Nat
  value : Nat
  high : Nat
  unit : Nat
  closed : Bool
  deriving DecidableEq, Inhabited

/-- The interval of the number `m * 2 ^ q`. The neighbour below is half as far away when the
number is the least of its binade, `atBinade`.
-/
def Interval.ofBinary (m : Nat) (q : Int) (atBinade : Bool) : Interval :=
  let scale := Nat.pow 2 (q - 2).toNat
  { low := (if atBinade then 4 * m - 1 else 4 * m - 2) * scale
    value := 4 * m * scale
    high := (4 * m + 2) * scale
    unit := Nat.pow 2 (2 - q).toNat
    closed := m % 2 = 0 }

/-- The decimal `n * 10 ^ e` lies in the interval. -/
def Interval.contains (interval : Interval) (n : Nat) (e : Int) : Bool :=
  let scaled := n * Nat.pow 10 e.toNat * interval.unit
  let low := interval.low * Nat.pow 10 (-e).toNat
  let high := interval.high * Nat.pow 10 (-e).toNat
  if interval.closed then low ≤ scaled && scaled ≤ high else low < scaled && scaled < high

/-- The greatest `n` such that `n * 10 ^ e` is at most the number, and whether the number lies
beyond the middle between that decimal and the next.
-/
def Interval.floor (interval : Interval) (e : Int) : Nat × Bool :=
  let numerator := interval.value * Nat.pow 10 (-e).toNat
  let denominator := interval.unit * Nat.pow 10 e.toNat
  (numerator / denominator, denominator < 2 * (numerator % denominator))

/-- The decimal exponent of the first digit of `value / unit`, searched downwards. -/
def leadingExponent (value unit : Nat) : Nat → Int → Int
  | 0, e => e
  | fuel + 1, e =>
    if unit * Nat.pow 10 e.toNat ≤ value * Nat.pow 10 (-e).toNat then e
    else leadingExponent value unit fuel (e - 1)

/-- The decimal in the interval with the fewest digits, tried from `count` digits on. -/
def Interval.shortestFrom (interval : Interval) (top : Int) : Nat → Nat → Scientific
  | 0, _ => ⟨0, 0⟩
  | fuel + 1, count =>
    let e := top - (count - 1 : Nat)
    let (below, upper) := interval.floor e
    let lowFits := interval.contains below e
    let highFits := interval.contains (below + 1) e
    let nearest := if upper then below + 1 else below
    if lowFits && highFits then ⟨nearest, e⟩
    else if lowFits then ⟨below, e⟩
    else if highFits then ⟨below + 1, e⟩
    else interval.shortestFrom top fuel (count + 1)

/-- The digits that read back as `m * 2 ^ q`. -/
def shortest (m : Nat) (q : Int) (atBinade : Bool) : List Char × Int :=
  let interval := Interval.ofBinary m q atBinade
  let top := leadingExponent interval.value interval.unit 700 310
  let found := interval.shortestFrom top 20 1
  let digits := Nat.toDigits 10 found.digits
  let exponent := found.exponent + (digits.length - 1 : Nat)
  let kept := (digits.reverse.dropWhile (· == '0')).reverse
  (kept, exponent)

/-- Digits in general notation: positional when the exponent is at least -4 and below 6, with an
exponent of two digits or more otherwise.
-/
def general (digits : List Char) (exponent : Int) : List Char :=
  if exponent < -4 || 6 ≤ exponent then
    let power := Nat.toDigits 10 exponent.natAbs
    digits.take 1 ++ (if digits.length ≤ 1 then [] else '.' :: digits.drop 1)
      ++ ['e', if exponent < 0 then '-' else '+']
      ++ (if power.length < 2 then '0' :: power else power)
  else if exponent < 0 then
    '0' :: '.' :: List.replicate (exponent.natAbs - 1) '0' ++ digits
  else
    let whole := exponent.toNat + 1
    let padded := digits ++ List.replicate (whole - digits.length) '0'
    padded.take whole ++ (if digits.length ≤ whole then [] else '.' :: padded.drop whole)

/-- A floating-point number that is not zero, taken apart: `mantissa * 2 ^ exponent` with a sign. -/
structure Binary where
  isNegative : Bool
  mantissa : Nat
  exponent : Int
  /-- The number is the least of its binade, and there is one below. -/
  atBinade : Bool
  deriving DecidableEq, Inhabited

/-- What a floating-point number is. -/
inductive Shape where
  | finite (parts : Binary)
  | infinite (isNegative : Bool)
  | notANumber
  deriving DecidableEq, Inhabited

/-- Takes a floating-point number apart. -/
def Shape.ofFloat (x : Float) : Shape :=
  let bits := x.toBits.toNat
  let isNegative : Bool := 0x8000000000000000 ≤ bits
  let field : Nat := bits / 0x10000000000000 % 0x800
  let fraction : Nat := bits % 0x10000000000000
  if field = 0x7ff then if fraction = 0 then .infinite isNegative else .notANumber
  else if field = 0 then .finite ⟨isNegative, fraction, -1074, false⟩
  else .finite ⟨isNegative, fraction + 0x10000000000000, field - 1075, 1 < field && fraction = 0⟩

/-- The text of a floating-point number: the fewest digits that read back, in general notation. -/
def text (x : Float) : String :=
  match Shape.ofFloat x with
  | .notANumber => "NaN"
  | .infinite isNegative => if isNegative then "-Inf" else "+Inf"
  | .finite parts =>
    let sign := if parts.isNegative then "-" else ""
    if parts.mantissa = 0 then sign ++ "0"
    else
      let (digits, exponent) := shortest parts.mantissa parts.exponent parts.atBinade
      sign ++ String.ofList (general digits exponent)

end TapeMachine.Decimal
