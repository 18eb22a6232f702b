import TapeMachine.Decimal.Shortest

/-!
What floating-point numbers amount to, as numbers that can be compared with whole ones.
-/

namespace TapeMachine.Decimal

/-- What a floating-point number amounts to. All that is no number amounts to the same. -/
inductive Amount where
  | finite (value : Rat)
  | infinite (isNegative : Bool)
  | notANumber
  deriving DecidableEq

/-- The amount of a floating-point number. Zero amounts to the same with either sign. -/
def Amount.ofFloat (x : Float) : Amount :=
  match Shape.ofFloat x with
  | .finite parts =>
    let size := mkRat (parts.mantissa * Nat.pow 2 parts.exponent.toNat)
      (Nat.pow 2 (-parts.exponent).toNat)
    .finite (if parts.isNegative then -size else size)
  | .infinite isNegative => .infinite isNegative
  | .notANumber => .notANumber

end TapeMachine.Decimal
