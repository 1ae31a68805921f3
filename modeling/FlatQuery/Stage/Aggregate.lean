import FlatQuery.Row
import FlatQuery.Text.Letter
import FlatQuery.Text.Ascii

/-!
# Aggregate calls

A selected entry such as `SUM(salary)` or `COUNT(*)` is an aggregate call:
a function name, and in parentheses a star or a run of word characters and
dots. Blanks may stand around the call and around its argument. Every other
entry is a plain field.

Cells count as numbers, and what is not a number makes a least or a greatest
value not a number for good.
-/

namespace FlatQuery

open Text

inductive Aggregate
  | sum
  | min
  | max
  | count
deriving DecidableEq, Repr

namespace Aggregate

def name : Aggregate → String
  | sum => "SUM"
  | min => "MIN"
  | max => "MAX"
  | count => "COUNT"

def all : List Aggregate := [sum, min, max, count]

/-- The function of a name, in any case. -/
def ofName? (s : List Char) : Option Aggregate :=
  all.find? fun function => sameLetters s function.name.toList

end Aggregate

structure AggregateCall where
  /-- The entry as written; it names the column of the result. -/
  text : String
  function : Aggregate
  field : String
deriving DecidableEq, Repr

namespace AggregateCall

def isArgumentChar (c : Char) : Bool := isWordChar c || c == '.'

/-- The argument at the start of a text, and what follows it. -/
def readArgument? : List Char → Option (List Char × List Char)
  | '*' :: rest => some (['*'], rest)
  | s =>
    if (s.takeWhile isArgumentChar).isEmpty then none
    else some (s.takeWhile isArgumentChar, s.dropWhile isArgumentChar)

/-- The call that a selected entry is, if it is one. -/
def read? (text : String) : Option AggregateCall :=
  let s := trim text.toList
  match s.dropWhile isWordChar with
  | '(' :: inner => do
    let (argument, rest) ← readArgument? (trimStart inner)
    if trimStart rest = [')'] then
      let function ← Aggregate.ofName? (s.takeWhile isWordChar)
      return ⟨text, function, String.ofList argument⟩
    else none
  | _ => none

/-! ## Numbers -/

/-- The number in a column of a row; a missing cell is not a number. -/
def number (field : String) (r : Row) : Float :=
  match r.get? field with
  | some cell => cell.toFloat
  | none => 0 / 0

def lesser (a b : Float) : Float :=
  if a.isNaN || b.isNaN then 0 / 0 else if b < a then b else a

def greater (a b : Float) : Float :=
  if a.isNaN || b.isNaN then 0 / 0 else if a < b then b else a

end AggregateCall

end FlatQuery
