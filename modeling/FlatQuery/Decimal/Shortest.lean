import FlatQuery.Decimal.Basic

/-!
# Shortest digits

The decimal with the fewest digits that reads back as a given double; of
several, the one closest to it. For each number of digits only the two
decimals next to the double are in question. Should no decimal of seventeen
digits read back, the exact value is taken, so the result always does.
-/

namespace FlatQuery.Decimal

/-- Which of two equally close decimals is taken. -/
inductive Tie
  | up
  | even

/-- The exponent of the first digit of `num / den`, both positive. -/
def leadingExponent (num den : Nat) : Int :=
  if den ≤ num then ((digitsOf (num / den)).length : Int) - 1
  else
    let places := (digitsOf (den / num)).length
    if den ≤ num * Nat.pow 10 (places - 1) then 1 - (places : Int) else -(places : Int)

/-- The decimal with last digit at `10 ^ exponent` that reads back as `word`
and is closest to `num / den`, which is the value of `word`. -/
def onGrid? (tie : Tie) (word num den : Nat) (exponent : Int) : Option Decimal :=
  let num := if 0 ≤ exponent then num else num * Nat.pow 10 (-exponent).toNat
  let den := if 0 ≤ exponent then den * Nat.pow 10 exponent.toNat else den
  let below := num / den
  let twice := 2 * (num % den)
  let lower : Decimal := ⟨below, exponent⟩
  let upper : Decimal := ⟨below + 1, exponent⟩
  let takeUpper : Bool :=
    if twice = den then
      match tie with
      | .up => true
      | .even => below % 2 = 1
    else den < twice
  let lowerFits := lower.toMagnitude == word
  let upperFits := upper.toMagnitude == word
  if upperFits && (takeUpper || !lowerFits) then some upper
  else if lowerFits then some lower
  else none

/-- A finite magnitude written out in full. -/
def exact (word : Nat) : Decimal :=
  let (significand, exponent) := binaryParts word
  if 0 ≤ exponent then ⟨significand * Nat.pow 2 exponent.toNat, 0⟩
  else ⟨significand * Nat.pow 5 (-exponent).toNat, exponent⟩

/-- Moves the zeros at the end of the digits into the exponent. -/
def normalize (d : Decimal) : Decimal :=
  if h : d.digits ≠ 0 ∧ d.digits % 10 = 0 then normalize ⟨d.digits / 10, d.exponent + 1⟩
  else d
termination_by d.digits
decreasing_by exact Nat.div_lt_self (Nat.pos_of_ne_zero h.1) (by omega)

/-- The shortest decimal of a finite magnitude, without zeros at its end. -/
def shortest (tie : Tie) (word : Nat) : Decimal :=
  if word = 0 then ⟨0, 0⟩
  else
    let (num, den) := quotient word
    let leading := leadingExponent num den
    let candidate := (List.range 17).findSome? fun (more : Nat) =>
      onGrid? tie word num den (leading - more)
    normalize (candidate.getD (exact word))

end FlatQuery.Decimal
