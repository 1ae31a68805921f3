import FlatQuery.Decimal.Shortest
import FlatQuery.Decimal.Layout

/-!
# Writing JSON

Compact JSON text: no blank anywhere, members in the order given.
-/

namespace FlatQuery.Json

/-- A character as `\uXXXX`, with lower case digits. -/
def unicodeEscape (c : Char) : List Char :=
  let n := c.toNat
  ['\\', 'u', Nat.digitChar (n / 4096 % 16), Nat.digitChar (n / 256 % 16),
    Nat.digitChar (n / 16 % 16), Nat.digitChar (n % 16)]

/-- Quotes, backslashes and the control characters below the space are escaped. -/
def escape (c : Char) : List Char :=
  if c = '"' then ['\\', '"']
  else if c = '\\' then ['\\', '\\']
  else if c = '\n' then ['\\', 'n']
  else if c = '\r' then ['\\', 'r']
  else if c = '\t' then ['\\', 't']
  else if c = '\x08' then ['\\', 'b']
  else if c = '\x0c' then ['\\', 'f']
  else if c.toNat < 0x20 then unicodeEscape c
  else [c]

def quote (s : String) : String :=
  String.ofList ('"' :: (s.toList.flatMap escape ++ ['"']))

def array (items : List String) : String := "[" ++ ",".intercalate items ++ "]"

def object (members : List (String × String)) : String :=
  "\x7b" ++ ",".intercalate (members.map fun (key, value) => quote key ++ ":" ++ value) ++ "\x7d"

/-- An integer in decimal, without leading zeros. -/
def integer (negative : Bool) (n : Nat) : String :=
  String.ofList ((if negative && n ≠ 0 then ['-'] else []) ++ Decimal.digitsOf n)

/-- A finite double by its shortest digits, ties to even: positional from
`0.00001` to below `10 ^ 16`, always with a point, and scientific elsewhere. -/
def double (x : Float) : String :=
  let d := Decimal.shortest .even (Decimal.magnitude x)
  let sign := if Decimal.isNegative x then ['-'] else []
  let body :=
    if -5 ≤ d.leading ∧ d.leading ≤ 15 then
      d.positional ++ (if 0 ≤ d.exponent then ['.', '0'] else [])
    else d.scientific
  String.ofList (sign ++ body)

end FlatQuery.Json
