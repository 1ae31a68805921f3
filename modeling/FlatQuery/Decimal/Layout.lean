import FlatQuery.Decimal.Basic

/-!
# Writing decimals

Two layouts: positional, with as many zeros as the exponent asks for, and
scientific, with one digit before the point and a signed exponent.
-/

namespace FlatQuery.Decimal

/-- All digits written out; no point when the exponent is not negative. -/
def positional (d : Decimal) : List Char :=
  let digits := digitsOf d.digits
  if 0 ≤ d.exponent then digits ++ List.replicate d.exponent.toNat '0'
  else
    let places := (-d.exponent).toNat
    if places < digits.length then
      digits.take (digits.length - places) ++ '.' :: digits.drop (digits.length - places)
    else '0' :: '.' :: (List.replicate (places - digits.length) '0' ++ digits)

/-- An integer with its sign, a plus sign included. -/
def signedDigits (n : Int) : List Char :=
  (if n < 0 then '-' else '+') :: digitsOf n.natAbs

/-- One digit, the others after a point, and the exponent of the first. -/
def scientific (d : Decimal) : List Char :=
  match digitsOf d.digits with
  | [] => []
  | [c] => c :: 'e' :: signedDigits d.leading
  | c :: rest => c :: '.' :: (rest ++ 'e' :: signedDigits d.leading)

end FlatQuery.Decimal
