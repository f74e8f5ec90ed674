import TraceRelay.Numeral

/-!
# Decimal fractions

Numbers with a fraction, as they stand in structured data. A number has a sign, which zero has
too, and is a whole number divided by a power of ten in lowest terms. The written form is
positional for numbers from `0.0001` up to sixteen digits before the point, and otherwise has one
digit before the point and an exponent of at least two digits. The positional form always has a
point.
-/

set_option autoImplicit false

namespace TraceRelay

/-- The number `coefficient / 10 ^ places`, or its negative. -/
structure Decimal where
  negative : Bool
  coefficient : Nat
  places : Nat
  deriving DecidableEq

namespace Decimal

/-! ## Lowest terms -/

/-- The number with the zeros at the end of the fraction taken away. -/
def normalize (negative : Bool) (coefficient : Nat) : Nat → Decimal
  | 0 => ⟨negative, coefficient, 0⟩
  | places + 1 =>
      if coefficient % 10 = 0 then normalize negative (coefficient / 10) places
      else ⟨negative, coefficient, places + 1⟩

/-- The number `coefficient * 10 ^ exponent`, or its negative. -/
def ofScientific (negative : Bool) (coefficient : Nat) (exponent : Int) : Decimal :=
  normalize negative (coefficient * Nat.pow 10 exponent.toNat) (-exponent).toNat

/-- A whole number. -/
def ofInt (n : Int) : Decimal := ⟨n < 0, n.natAbs, 0⟩

/-- The number is zero, of either sign. -/
def isZero (d : Decimal) : Bool := d.coefficient == 0

/-- The number itself, and positive zero for both zeros. -/
def positiveZero (d : Decimal) : Decimal :=
  { d with negative := d.negative && !d.isZero }

/-! ## Written form -/

/-- Limits of the positional form, as exponents of the leading digit. -/
structure Layout where
  least : Int
  beyond : Int
  exponentWidth : Nat

/-- The leading digit of a positional number stands at `10 ^ -4` or above and below `10 ^ 16`, and
an exponent has at least two digits. -/
def layout : Layout := ⟨-4, 16, 2⟩

/-- Digits with the point behind the first `point` of them, padded with zeros where the point
falls outside. -/
def positional (digits : List Char) (point : Int) : List Char :=
  if point ≤ 0 then
    ['0', '.'] ++ List.replicate (-point).toNat '0' ++ digits
  else
    let whole := digits.take point.toNat
    let fraction := digits.drop point.toNat
    whole ++ List.replicate (point.toNat - whole.length) '0' ++
      ['.'] ++ (if fraction.isEmpty then ['0'] else fraction)

/-- Digits with the point behind the first one, and the exponent of that first digit. -/
def scientific (digits : List Char) (exponent : Int) : List Char :=
  let significant := (digits.reverse.dropWhile (· == '0')).reverse
  let fraction := significant.drop 1
  significant.take 1 ++ (if fraction.isEmpty then [] else '.' :: fraction) ++
    ['e', if exponent < 0 then '-' else '+'] ++
      List.leftpad layout.exponentWidth '0' (Nat.toDigits 10 exponent.natAbs)

/-- The written form of a number. -/
def literal (d : Decimal) : List Char :=
  let digits := Nat.toDigits 10 d.coefficient
  let point : Int := digits.length - d.places
  let exponent := point - 1
  let body :=
    if d.isZero || (layout.least ≤ exponent && exponent < layout.beyond)
    then positional digits point else scientific digits exponent
  if d.negative then '-' :: body else body

end Decimal

end TraceRelay
