import FlatQuery.Decimal.Basic
import FlatQuery.Text.Ascii

/-!
# Reading numbers

A numeral is an optional sign, then digits with at most one point and at
least one digit, then optionally `e` or `E` and a whole exponent; or an
optional sign and one of the words `inf`, `infinity` and `nan` in any case.
It stands for the nearest double. Nothing may be left over.
-/

namespace FlatQuery.Decimal

/-- The value of a run of digits read on from `start`. -/
def readDigits (start : Nat) (digits : List Char) : Nat :=
  digits.foldl (fun n c => 10 * n + (c.toNat - '0'.toNat)) start

/-- A minus sign, a plus sign or none, and what follows. -/
def readSign : List Char → Bool × List Char
  | '-' :: r => (true, r)
  | '+' :: r => (false, r)
  | r => (false, r)

/-- The exponent at the end of a numeral: nothing at all, or the letter and digits. -/
def readExponent? : List Char → Option Int
  | [] => some 0
  | c :: r =>
    if c = 'e' ∨ c = 'E' then
      let (negative, digits) := readSign r
      if digits ≠ [] ∧ digits.all Char.isDigit then
        let n : Int := readDigits 0 digits
        some (if negative then -n else n)
      else none
    else none

/-- The decimal an unsigned numeral spells. -/
def readUnsigned? (s : List Char) : Option Decimal :=
  let whole := s.takeWhile Char.isDigit
  let rest := s.dropWhile Char.isDigit
  let (fraction, rest) :=
    match rest with
    | '.' :: r => (r.takeWhile Char.isDigit, r.dropWhile Char.isDigit)
    | r => ([], r)
  if whole = [] ∧ fraction = [] then none
  else
    (readExponent? rest).map fun exponent =>
      ⟨readDigits (readDigits 0 whole) fraction, exponent - fraction.length⟩

/-- The double a numeral stands for. -/
def readFloat? (s : List Char) : Option Float :=
  let (negative, body) := readSign s
  let word := Text.lower body
  if word = "inf".toList ∨ word = "infinity".toList then
    some (ofMagnitude negative infinityWord)
  else if word = "nan".toList then some (0 / 0)
  else (readUnsigned? body).map fun d => ofMagnitude negative d.toMagnitude

end FlatQuery.Decimal
