import FlatQuery.Stage.Aggregate

/-!
# Running values of a group

A group is tallied row by row. It keeps the grouping cells of its first row,
the number of its rows, and a running value for every column that is summed or
searched for its least or greatest number. Calls for the same function of the
same column share one running value, and each of them takes every row into it.
-/

namespace FlatQuery

structure Tally where
  cells : List (String × Cell)
  count : Nat
  sums : OrderMap String Float
  leasts : OrderMap String Float
  greatests : OrderMap String Float

namespace Tally

/-- A group that its first row opens. The row is not counted yet. -/
def start (fields : List String) (first : Row) : Tally where
  cells := fields.map fun field => (field, (first.get? field).getD .null)
  count := 0
  sums := .empty
  leasts := .empty
  greatests := .empty

/-- Takes the number in a row into the running value of a call. A least or
greatest value starts with the first number. -/
def take (r : Row) (t : Tally) (call : AggregateCall) : Tally :=
  let x := AggregateCall.number call.field r
  match call.function with
  | .sum => { t with sums := t.sums.update call.field fun found => found.getD 0 + x }
  | .min =>
    { t with leasts := t.leasts.update call.field fun found =>
        AggregateCall.lesser (found.getD x) x }
  | .max =>
    { t with greatests := t.greatests.update call.field fun found =>
        AggregateCall.greater (found.getD x) x }
  | .count => t

/-- Counts a row and takes it into the value of each call, one after the other. -/
def add (calls : List AggregateCall) (t : Tally) (r : Row) : Tally :=
  calls.foldl (take r) { t with count := t.count + 1 }

def running? (t : Tally) (call : AggregateCall) : Option Float :=
  match call.function with
  | .sum => t.sums.get? call.field
  | .min => t.leasts.get? call.field
  | .max => t.greatests.get? call.field
  | .count => some (Float.ofNat t.count)

def value (t : Tally) (call : AggregateCall) : Cell :=
  match t.running? call with
  | some x => .number x
  | none => .null

/-- The row of the group: its grouping cells, then the values of the calls. -/
def row (calls : List AggregateCall) (t : Tally) : Row :=
  OrderMap.ofList (t.cells ++ calls.map fun call => (call.text, t.value call))

end Tally

end FlatQuery
