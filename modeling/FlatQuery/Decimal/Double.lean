/-!
# Doubles as exact binary fractions

The magnitude of a double is a word below `2 ^ 63`: an exponent field over a
52-bit fraction. A finite magnitude is `significand * 2 ^ exponent`, and
`nearest` is the way back: the magnitude closest to a quotient of natural
numbers, the even one of two equally close.
-/

namespace FlatQuery.Decimal

/-- The word of positive infinity; every finite magnitude is below it. -/
def infinityWord : Nat := 0x7FF * Nat.pow 2 52

/-- The sign bit. -/
def isNegative (x : Float) : Bool := Nat.pow 2 63 ≤ x.toBits.toNat

/-- The word without its sign bit. -/
def magnitude (x : Float) : Nat := x.toBits.toNat % Nat.pow 2 63

/-- The double with a given sign and magnitude word. -/
def ofMagnitude (negative : Bool) (word : Nat) : Float :=
  Float.ofBits (UInt64.ofNat (if negative then Nat.pow 2 63 + word else word))

/-- Significand and power of two of a finite magnitude. -/
def binaryParts (word : Nat) : Nat × Int :=
  let field : Nat := word / Nat.pow 2 52
  let fraction : Nat := word % Nat.pow 2 52
  if field = 0 then (fraction, -1074) else (Nat.pow 2 52 + fraction, (field : Int) - 1075)

/-- A finite magnitude as a quotient of natural numbers. -/
def quotient (word : Nat) : Nat × Nat :=
  let (significand, exponent) := binaryParts word
  if 0 ≤ exponent then (significand * Nat.pow 2 exponent.toNat, 1)
  else (significand, Nat.pow 2 (-exponent).toNat)

/-- The natural number a finite magnitude is, if it is one. -/
def natural? (word : Nat) : Option Nat :=
  let (num, den) := quotient word
  if num % den = 0 then some (num / den) else none

/-- The nearest natural number to `num / den`, the even one of two. -/
def roundHalfEven (num den : Nat) : Nat :=
  let whole := num / den
  let twice := 2 * (num % den)
  if twice < den then whole
  else if den < twice then whole + 1
  else whole + whole % 2

/-- The exponent of the last bit that a double near `num / den` keeps. -/
def lastBitExponent (num den : Nat) : Int :=
  let guess : Int := (num.log2 : Int) - den.log2 - 52
  let tooSmall : Bool :=
    if 0 ≤ guess then num < den * Nat.pow 2 (guess.toNat + 52)
    else num * Nat.pow 2 (-guess).toNat < den * Nat.pow 2 52
  max (if tooSmall then guess - 1 else guess) (-1074)

/-- The magnitude nearest to `num / den`. What lies beyond the largest finite
double by half a step or more becomes infinity. -/
def nearest (num den : Nat) : Nat :=
  if num = 0 then 0
  else
    let exponent := lastBitExponent num den
    let significand :=
      if 0 ≤ exponent then roundHalfEven num (den * Nat.pow 2 exponent.toNat)
      else roundHalfEven (num * Nat.pow 2 (-exponent).toNat) den
    min ((exponent + 1074).toNat * Nat.pow 2 52 + significand) infinityWord

end FlatQuery.Decimal
