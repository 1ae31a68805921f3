import FlatQuery.Decimal.Numeral
import FlatQuery.Json.Text
import FlatQuery.Text.Blank

/-!
# Cells

A cell is a text as loaded from a table, a number computed by an aggregate,
or null. Every cell has a text (`render`), a number (`toFloat`) and a JSON
form. Whole numbers below `10 ^ 15` are written as integers.
-/

namespace FlatQuery

inductive Cell
  | null
  | text (s : String)
  | number (x : Float)
deriving BEq, Repr

namespace Cell

def isNull : Cell → Bool
  | null => true
  | _ => false

def text? : Cell → Option String
  | text s => some s
  | _ => none

def number? : Cell → Option Float
  | number x => some x
  | _ => none

/-- The number a cell stands for. Text counts only if all of it, apart from
blanks at its ends, is a numeral; anything else is not a number. -/
def toFloat : Cell → Float
  | null => 0 / 0
  | text s => (Decimal.readFloat? (Text.trim s.toList)).getD (0 / 0)
  | number x => x

/-- The absolute value of a double that is written as an integer. -/
def smallInteger? (x : Float) : Option Nat :=
  (Decimal.natural? (Decimal.magnitude x)).filter (· < Nat.pow 10 15)

/-- The text of a number: an integer, or the shortest digits written out. -/
def renderNumber (x : Float) : String :=
  if x.isNaN then "NaN"
  else if x.isInf then (if Decimal.isNegative x then "-inf" else "inf")
  else
    match smallInteger? x with
    | some n => Json.integer (Decimal.isNegative x) n
    | none =>
      let sign := if Decimal.isNegative x then ['-'] else []
      String.ofList (sign ++ (Decimal.shortest .up (Decimal.magnitude x)).positional)

/-- The text of a cell; null has the empty text. -/
def render : Cell → String
  | null => ""
  | text s => s
  | number x => renderNumber x

/-- JSON has no infinities and no NaN, so these are quoted. -/
def json : Cell → String
  | null => "null"
  | text s => Json.quote s
  | number x =>
    if x.isNaN || x.isInf then Json.quote (renderNumber x)
    else
      match smallInteger? x with
      | some n => Json.integer (Decimal.isNegative x) n
      | none => Json.double x

end Cell

end FlatQuery
