import FlatQuery.Stage.Join
import FlatQuery.Stage.Filter
import FlatQuery.Stage.Group
import FlatQuery.Trace.Event

/-!
# Running a plan

Join, filter, group, project, in this order. Every stage keeps the order of
its input and is recorded with the number of rows it leaves.
-/

namespace FlatQuery

/-- The rows of a query and how many there were on the way. -/
structure Result where
  rows : List Row
  loaded : Nat
  joined : Option Nat
  filtered : Nat
  groups : Option Nat

namespace Result

/-- The rows as a JSON array. -/
def json (result : Result) : String := Json.array (result.rows.map Row.json)

end Result

namespace Plan

def count (rows : List Row) : String := Decimal.numeral rows.length

/-- The join stage. The rows of the joined table count as none when they are
missing, and are not looked at when the plan has no join. -/
def joinStage (plan : Plan) (rows : List Row) (joined : Option (List Row)) :
    List Row × Option Nat × List Record :=
  match plan.join with
  | none => (rows, none, [])
  | some clause =>
    let output := Join.rows clause plan.fields plan.table rows (joined.getD [])
    (output, some output.length,
      [Event.joinComplete.record [("join_type", clause.kind.name), ("rows", count output)]])

def filterStage (plan : Plan) (rows : List Row) : List Row × List Record :=
  let output := rows.filter (Condition.allHold plan.conditions)
  (output, [Event.filterComplete.record [("rows", count output)]])

def groupStage (plan : Plan) (rows : List Row) : List Row × Option Nat × List Record :=
  match plan.groupBy with
  | none => (rows, none, [])
  | some fields =>
    let output := Group.rows fields plan.fields rows
    (output, some output.length, [Event.groupComplete.record [("groups", count output)]])

/-- The result of a plan over the rows of its tables, and the records of its stages. -/
def run (plan : Plan) (rows : List Row) (joined : Option (List Row)) : Result × List Record :=
  let (joinedRows, joinCount, joinRecords) := plan.joinStage rows joined
  let (filteredRows, filterRecords) := plan.filterStage joinedRows
  let (groupedRows, groupCount, groupRecords) := plan.groupStage filteredRows
  ({ rows := groupedRows.map (Row.project plan.fields)
     loaded := rows.length
     joined := joinCount
     filtered := filteredRows.length
     groups := groupCount },
    joinRecords ++ filterRecords ++ groupRecords)

end Plan

end FlatQuery
