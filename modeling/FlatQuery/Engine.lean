import FlatQuery.Query.Explain
import FlatQuery.Stage.Pipeline
import FlatQuery.Table.Source
import FlatQuery.Trace.Scope

/-!
# Queries from text to result

`execute` reads a query, loads its tables and runs its plan. A query that is
no query never reaches a table, and a table that cannot be loaded ends the
call without a result. Along with the outcome come the records of the call:
one that it began, what happened, and one how it ended.
-/

namespace FlatQuery

inductive EngineError
  | query (error : QueryError)
  | table (error : TableError)
deriving DecidableEq, Repr

namespace EngineError

def code : EngineError → String
  | query error => error.code
  | table error => error.code

def message : EngineError → String
  | query error => error.render
  | table error => error.message

/-- Whether no table was looked at. -/
def isRejection : EngineError → Bool
  | query _ => true
  | table _ => false

end EngineError

/-- A value together with the records of how it came about, first one first. -/
structure Traced (α : Type) where
  value : α
  records : List Record

/-! ## Explaining -/

/-- Explains a query and records whether it was accepted. -/
def explain (query : String) : Traced Explanation :=
  let explanation := Explanation.ofQuery query
  let accepted := if explanation.isAccepted then "true" else "false"
  ⟨explanation, [Event.explainComplete.record [("accepted", accepted)]]⟩

/-! ## Loading -/

def loadedRecord (name : String) (rows : List Row) : Record :=
  Event.tableLoaded.record [("table", name), ("rows", Decimal.numeral rows.length)]

def loadTable (source : Source) (name : String) : Traced (Except TableError (List Row)) :=
  match source.load name with
  | .ok rows => ⟨.ok rows, [loadedRecord name rows]⟩
  | .error error => ⟨.error error, []⟩

/-- The first of the tables that the source refuses at once. -/
def firstRefusal? (source : Source) (names : List String) : Option TableError :=
  names.findSome? source.refusal?

/-- Loads the table of a plan and, if it joins, the joined table. A refused name
stops both; otherwise the first table that fails is reported. -/
def loadTables (source : Source) (plan : Plan) :
    Traced (Except TableError (List Row × Option (List Row))) :=
  match plan.join with
  | none =>
    let first := loadTable source plan.table
    ⟨first.value.map fun rows => (rows, none), first.records⟩
  | some clause =>
    match firstRefusal? source [plan.table, clause.table] with
    | some error => ⟨.error error, []⟩
    | none =>
      let first := loadTable source plan.table
      match first.value with
      | .error error => ⟨.error error, first.records⟩
      | .ok rows =>
        let second := loadTable source clause.table
        ⟨second.value.map fun joined => (rows, some joined), first.records ++ second.records⟩

/-! ## Executing -/

def parsedRecord (plan : Plan) : Record :=
  Event.queryParsed.record
    [("table", plan.table), ("stages", ",".intercalate (plan.stages.map Stage.name))]

/-- Runs a query against a source. The last record gives `elapsed` as its time in
milliseconds. -/
def execute (source : Source) (elapsed : Nat) (query : String) :
    Traced (Except EngineError Result) :=
  let scope := Scope.start "QUERY" [("query", query)]
  let close (ending : Ending) : List Record := [(scope.finish ending).closingRecord elapsed]
  match Plan.parse query with
  | .error error =>
    ⟨.error (.query error), scope.openingRecord :: close (.rejected error.code error.message)⟩
  | .ok plan =>
    let begun := [scope.openingRecord, parsedRecord plan]
    let tables := loadTables source plan
    match tables.value with
    | .error error =>
      ⟨.error (.table error), begun ++ tables.records ++ close (.failed error.code error.message)⟩
    | .ok (rows, joined) =>
      let (result, records) := plan.run rows joined
      ⟨.ok result, begun ++ tables.records ++ records ++
        close (.complete [("rows", Decimal.numeral result.rows.length)])⟩

end FlatQuery
