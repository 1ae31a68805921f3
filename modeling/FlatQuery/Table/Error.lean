import FlatQuery.File
import FlatQuery.Table.Delimited

/-!
# Tables that cannot be loaded
-/

namespace FlatQuery

inductive TableError
  | notFound (table : String)
  | io (table : String) (failure : ReadFailure)
  | delimited (table : String) (error : Delimited.Error)
deriving DecidableEq, Repr

namespace TableError

def code : TableError → String
  | notFound _ => "FLATSQL_TABLE_NOT_FOUND"
  | io _ _ => "FLATSQL_TABLE_IO"
  | delimited _ _ => "FLATSQL_TABLE_CSV"

def message : TableError → String
  | notFound table => "Table not found: " ++ table
  | io table failure => "I/O error reading table '" ++ table ++ "': " ++ failure.message
  | delimited table error => "Invalid CSV in table '" ++ table ++ "': " ++ error.message

/-- A file that is not there means a table that is not there. -/
def ofFailure (table : String) (failure : ReadFailure) : TableError :=
  if failure.kind = .notFound then .notFound table else .io table failure

end TableError

end FlatQuery
