import FlatQuery.Stage.Tally
import FlatQuery.Stage.Project

/-!
# Grouping

Rows belong to one group if their grouping cells have the same texts. Groups
come in the order of their first rows, and each gives one row: the grouping
cells of its first row, then the values of the aggregate calls.
-/

namespace FlatQuery.Group

/-- The texts of the grouping cells with a unit separator between them; a
missing cell has the empty text. -/
def key (fields : List String) (r : Row) : String :=
  "\x1f".intercalate (fields.map fun field => (r.cellOrNull field).render)

/-- The tally of each key. The first row of a key opens its group. -/
def collect (fields : List String) (calls : List AggregateCall) (rows : List Row) :
    OrderMap String Tally :=
  rows.foldl (fun groups r => groups.update (key fields r) fun found =>
      (found.getD (Tally.start fields r)).add calls r)
    OrderMap.empty

/-- One row per group. Selected entries that are no aggregate calls are left to
the projection. -/
def rows (fields selected : List String) (rows : List Row) : List Row :=
  let calls := selected.filterMap AggregateCall.read?
  (collect fields calls rows).entries.map fun (_, t) => t.row calls

end FlatQuery.Group
