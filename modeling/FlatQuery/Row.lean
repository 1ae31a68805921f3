import FlatQuery.Cell
import FlatQuery.OrderMap
import FlatQuery.Text.Split

/-!
# Rows

A row maps column names to cells and keeps the order in which they were
written. A column name is bare (`age`) or qualified (`student.age`).
-/

namespace FlatQuery

abbrev Row := OrderMap String Cell

/-- The qualifier before the first dot, if there is a dot, and the column. -/
def splitQualified (field : String) : Option String × String :=
  match Text.splitFirst? '.' field.toList with
  | some (table, column) => (some (String.ofList table), String.ofList column)
  | none => (none, field)

namespace Row

/-- The cell under exactly this name, unless it is null. -/
def present? (r : Row) (key : String) : Option Cell := (r.get? key).filter (!·.isNull)

/-- The cell under the name as written, else under the column alone. Null
counts as absent in both places. -/
def lookup (r : Row) (field : String) : Option Cell :=
  (r.present? field).or <|
    match splitQualified field with
    | (some _, column) => r.present? column
    | (none, _) => none

/-- Equality up to the order of the columns. -/
def same (r s : Row) : Bool :=
  r.size == s.size && r.entries.all fun (key, cell) =>
    match s.get? key with
    | some other => cell == other
    | none => false

/-- The row as a JSON object, members in column order. -/
def json (r : Row) : String := Json.object (r.entries.map fun (key, cell) => (key, cell.json))

end Row

end FlatQuery
