import FlatQuery.Row

/-!
# Projection

A projected row has exactly the selected fields as its columns, in their
order; a field the row lacks is null.
-/

namespace FlatQuery.Row

/-- The cell under a name, or null. -/
def cellOrNull (r : Row) (field : String) : Cell := (r.get? field).getD .null

def project (fields : List String) (r : Row) : Row :=
  OrderMap.ofList (fields.map fun field => (field, r.cellOrNull field))

end FlatQuery.Row
