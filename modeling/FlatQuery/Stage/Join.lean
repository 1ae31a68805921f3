import FlatQuery.Query.Plan
import FlatQuery.Row

/-!
# Joins

A join pairs the rows of the left table with rows of the right one whose key
cells are present and equal. An outer join also keeps the rows of its own
side that match nothing, paired with no row. The pairs come in the order of
the driving side, left for INNER and LEFT and right for RIGHT, and within
that in the order of the other side.

A joined row holds the cells of both sides under qualified names, and after
them the selected fields as written.
-/

namespace FlatQuery.Join

/-! ## Pairs of rows -/

/-- Pairs each row of `driving` with its partners, or with none if it has none. -/
def outerPairs (partners : Row → List Row) (driving : List Row) : List (Row × Option Row) :=
  driving.flatMap fun row =>
    match partners row with
    | [] => [(row, none)]
    | found => found.map fun other => (row, some other)

/-- The pairs of a join, either side possibly missing. -/
def pairs (kind : JoinKind) (agree : Row → Row → Bool) (left right : List Row) :
    List (Option Row × Option Row) :=
  match kind with
  | .inner =>
    left.flatMap fun l => (right.filter fun r => agree l r).map fun r => (some l, some r)
  | .left =>
    (outerPairs (fun l => right.filter fun r => agree l r) left).map fun (l, r) => (some l, r)
  | .right =>
    (outerPairs (fun r => left.filter fun l => agree l r) right).map fun (r, l) => (l, some r)

/-- The key fields of the left and the right table. They change places when the
condition names the right table first. -/
def orientedKeys (clause : JoinClause) (leftTable : String) : String × String :=
  let leftQualifier := (splitQualified clause.left).1
  let rightQualifier := (splitQualified clause.right).1
  if leftQualifier = some clause.table ∧ rightQualifier = some leftTable ∧
      leftTable ≠ clause.table then
    (clause.right, clause.left)
  else (clause.left, clause.right)

/-- Whether two rows have equal keys. A missing or null key equals nothing. -/
def agree (keys : String × String) (l r : Row) : Bool :=
  match l.lookup keys.1, r.lookup keys.2 with
  | some a, some b => a == b
  | _, _ => false

/-! ## Joined rows -/

/-- A column name with its table, unless it has a dot already. -/
def qualify (table key : String) : String :=
  if '.' ∈ key.toList then key else table ++ "." ++ key

/-- The cells of one side. A missing side is null in every column of `shape`,
the first row of its table. -/
def sideCells (table : String) (shape side : Option Row) : List (String × Cell) :=
  match side, shape with
  | some row, _ => row.entries.map fun (key, cell) => (qualify table key, cell)
  | none, some row => row.keys.map fun key => (qualify table key, .null)
  | none, none => []

/-- A selected field is read from the right side if it is qualified by another
table than the left one, and from the left side otherwise. -/
def selectedCell (leftTable : String) (left right : Option Row) (field : String) : Cell :=
  let side :=
    match (splitQualified field).1 with
    | some table => if table = leftTable then left else right
    | none => left
  (side.bind fun row => row.lookup field).getD .null

/-- The row of a pair. -/
def combine (leftTable rightTable : String) (fields : List String)
    (leftShape rightShape : Option Row) (pair : Option Row × Option Row) : Row :=
  OrderMap.ofList <|
    sideCells leftTable leftShape pair.1 ++ sideCells rightTable rightShape pair.2 ++
      fields.map fun field => (field, selectedCell leftTable pair.1 pair.2 field)

/-- The joined rows of two tables. -/
def rows (clause : JoinClause) (fields : List String) (leftTable : String)
    (left right : List Row) : List Row :=
  (pairs clause.kind (agree (orientedKeys clause leftTable)) left right).map
    (combine leftTable clause.table fields left.head? right.head?)

end FlatQuery.Join
