import FlatQuery.Decimal.Double

/-!
# Decimal numbers

`digits * 10 ^ exponent`, and the double nearest to it.
-/

namespace FlatQuery

structure Decimal where
  digits : Nat
  exponent : Int
deriving DecidableEq, Repr

namespace Decimal

/-- The decimal digits of a natural number, most significant first. -/
def digitsOf (n : Nat) : List Char := Nat.toDigits 10 n

/-- A natural number in decimal. -/
def numeral (n : Nat) : String := String.ofList (digitsOf n)

/-- The exponent of the first digit: the number lies from `10 ^ leading` up to
the next power of ten. -/
def leading (d : Decimal) : Int := d.exponent + (digitsOf d.digits).length - 1

/-- The magnitude word of the nearest double. Far outside the range of the
doubles the answer does not need the power of ten. -/
def toMagnitude (d : Decimal) : Nat :=
  if d.digits = 0 then 0
  else if 310 < d.leading then infinityWord
  else if d.leading < -330 then 0
  else if 0 ≤ d.exponent then nearest (d.digits * Nat.pow 10 d.exponent.toNat) 1
  else nearest d.digits (Nat.pow 10 (-d.exponent).toNat)

end Decimal

end FlatQuery
