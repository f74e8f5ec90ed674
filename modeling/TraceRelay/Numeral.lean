/-!
# Numerals

Unsigned numerals are read digit by digit in a base up to sixteen, with the lower-case letters
as the digits from ten on. Integers are written in hexadecimal, padded with zeros to a least
width that the minus sign is part of, or in decimal without padding.

Decimal numerals longer than `Numeral.digitLimit` are neither read nor written. The limit counts
digits as they stand, leading zeros included, and does not count the sign.
-/

set_option autoImplicit false

namespace TraceRelay.Numeral

/-! ## Digits -/

/-- The ASCII decimal digits. -/
def isDecimalDigit (c : Char) : Bool :=
  '0' ≤ c && c ≤ '9'

/-- The ASCII hexadecimal digits, with lower-case letters. -/
def isHexDigit (c : Char) : Bool :=
  isDecimalDigit c || ('a' ≤ c && c ≤ 'f')

/-- The number a digit stands for. -/
def digitValue (c : Char) : Nat :=
  if isDecimalDigit c then c.toNat - '0'.toNat else c.toNat - 'a'.toNat + 10

/-! ## Reading -/

/-- The number a row of digits stands for, most significant digit first. -/
def value (base : Nat) (digits : List Char) : Nat :=
  digits.foldl (fun n c => base * n + digitValue c) 0

theorem value_append_singleton (base : Nat) (digits : List Char) (c : Char) :
    value base (digits ++ [c]) = base * value base digits + digitValue c := by
  simp [value, List.foldl_append]

/-! ## Writing -/

/-- The sign and the digits of an integer, the digits padded with zeros so that both together
take up at least `width` characters. -/
def signed (base width : Nat) (n : Int) : List Char :=
  let digits := Nat.toDigits base n.natAbs
  if n < 0 then '-' :: List.leftpad (width - 1) '0' digits else List.leftpad width '0' digits

/-- The hexadecimal numeral of an integer in at least `width` characters. -/
def hex (width : Nat) (n : Int) : List Char :=
  signed 16 width n

/-- The decimal numeral of an integer. -/
def decimal (n : Int) : List Char :=
  signed 10 0 n

/-! ## The length limit -/

/-- The greatest number of digits of a decimal numeral. -/
def digitLimit : Nat := 4300

/-- The decimal numeral of an integer, unless it has too many digits. -/
def decimal? (n : Int) : Option (List Char) :=
  if digitLimit < (Nat.toDigits 10 n.natAbs).length then none else some (decimal n)

end TraceRelay.Numeral
