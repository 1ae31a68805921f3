import FlatQuery.Json.Fault
import FlatQuery.Decimal.Numeral

/-!
# Reading numbers

A number is kept in 64 bits of digits; what does not fit is dropped and
counted as a power of ten, which double arithmetic then applies. The result
is a double close to the number, not always the nearest. A number is too large
if there is no such double, or as soon as its exponent leaves 31 bits.
-/

namespace FlatQuery.Json

/-- An exponent as it is written, after its letter. -/
structure Exponent where
  negative : Bool
  digits : List Char
deriving DecidableEq, Repr

def Exponent.value (e : Exponent) : Int :=
  let n : Int := Decimal.readDigits 0 e.digits
  if e.negative then -n else n

/-- The parts of a number as they are written. The fraction is empty exactly if
there is no point. -/
structure Numeral where
  negative : Bool
  whole : List Char
  fraction : List Char
  exponent : Option Exponent
deriving DecidableEq, Repr

/-! ## Parts -/

/-- A run of digits, at least one of them. `atEnd` is the fault of a text that ends here. -/
def digits (atEnd : Fault) (s : List Char) : Except Stop (List Char × List Char) :=
  match s.takeWhile Char.isDigit, s.dropWhile Char.isDigit with
  | [], [] => stopAt atEnd []
  | [], rest => stopBefore .badNumber rest
  | run, rest => .ok (run, rest)

/-- The digits before the point. A zero in front stands alone. -/
def wholePart (atEnd : Fault) (s : List Char) : Except Stop (List Char × List Char) := do
  let (run, rest) ← digits atEnd s
  match run with
  | '0' :: _ :: _ => stopBefore .badNumber s.tail
  | _ => .ok (run, rest)

def fractionPart (atEnd : Fault) : List Char → Except Stop (List Char × List Char)
  | '.' :: s => digits atEnd s
  | s => .ok ([], s)

def exponentPart (atEnd : Fault) : List Char → Except Stop (Option Exponent × List Char)
  | [] => .ok (none, [])
  | c :: s =>
    if c = 'e' ∨ c = 'E' then do
      let (negative, s) := Decimal.readSign s
      let (run, rest) ← digits atEnd s
      .ok (some ⟨negative, run⟩, rest)
    else .ok (none, c :: s)

/-- Reads a number that begins with a minus sign or a digit. -/
def numeral (atEnd : Fault) (s : List Char) : Except Stop (Numeral × List Char) := do
  let (negative, s) := match s with
    | '-' :: rest => (true, rest)
    | _ => (false, s)
  let (whole, s) ← wholePart atEnd s
  let (fraction, s) ← fractionPart atEnd s
  let (exponent, s) ← exponentPart atEnd s
  .ok (⟨negative, whole, fraction, exponent⟩, s)

/-! ## Values -/

/-- Appends digits to a number as long as it stays below `2 ^ 64`, and counts them. -/
def absorb (n : Nat) : List Char → Nat × Nat
  | [] => (n, 0)
  | c :: rest =>
    let longer := 10 * n + (c.toNat - '0'.toNat)
    if longer < Nat.pow 2 64 then
      let (m, count) := absorb longer rest
      (m, count + 1)
    else (n, 0)

/-- A power of ten up to `10 ^ 308`. -/
def powerOfTen (n : Nat) : Float := Decimal.ofMagnitude false (Decimal.nearest (Nat.pow 10 n) 1)

/-- Divides by a power of ten, at most `10 ^ 308` at a time. -/
def shrink (x : Float) (places : Nat) : Float :=
  if places ≤ 308 then x / powerOfTen places
  else if x == 0 then x
  else shrink (x / powerOfTen 308) (places - 308)
termination_by places

/-- Multiplies by a power of ten. There is no double beyond the largest one. -/
def scale? (x : Float) (exponent : Int) : Option Float :=
  if exponent < 0 then some (shrink x (-exponent).toNat)
  else if x == 0 then some x
  else if 308 < exponent then none
  else
    let y := x * powerOfTen exponent.toNat
    if y.isInf then none else some y

/-- The double for a number, if there is one. -/
def Numeral.double? (n : Numeral) : Option Float :=
  let (whole, wholeKept) := absorb 0 n.whole
  let (all, fractionKept) := absorb whole n.fraction
  let places : Int := (n.whole.length - wholeKept : Nat) - (fractionKept : Int)
  (scale? (Decimal.ofMagnitude false (Decimal.nearest all 1))
    (places + (n.exponent.map Exponent.value).getD 0)).map fun x => if n.negative then -x else x

/-- What a number is, if it is not too large: an integer if it is written as one
and has 64 bits, where minus zero is no integer. -/
def Numeral.found? (n : Numeral) : Option Found :=
  let value := Decimal.readDigits 0 n.whole
  let fits := if n.negative then 0 < value ∧ value ≤ Nat.pow 2 63 else value < Nat.pow 2 64
  if n.fraction = [] ∧ n.exponent = none ∧ fits then some (.integer n.negative value)
  else n.double?.map .double

/-- The digits left of an exponent after the one that takes it, read on from `n`, to
`2 ^ 31` or above. There are none if it stays below. -/
def beyondExponent (n : Nat) : List Char → List Char
  | [] => []
  | c :: rest =>
    let longer := 10 * n + (c.toNat - '0'.toNat)
    if longer < Nat.pow 2 31 then beyondExponent longer rest else rest

/-- The digits of a number that were not needed to see that it is too large. -/
def Numeral.beyond (n : Numeral) : List Char :=
  match n.exponent with
  | some e => beyondExponent 0 e.digits
  | none => []

/-- Reads a number whose value is needed. -/
def number (s : List Char) : Except Stop (Found × List Char) := do
  let (n, rest) ← numeral .endInValue s
  match n.found? with
  | some found => .ok (found, rest)
  | none => stopAt .hugeNumber (n.beyond ++ rest)

end FlatQuery.Json
