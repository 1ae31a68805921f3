import FlatQuery.Query.Plan
import FlatQuery.Row

/-!
# Filtering

A condition looks its field up under the exact name and compares texts by
code points, so `"9"` is greater than `"10"`. A missing or null cell satisfies
only `!=`.
-/

namespace FlatQuery

def Comparison.holds (c : Comparison) (actual expected : String) : Bool :=
  match c with
  | .eq => actual == expected
  | .ne => actual != expected
  | .gt => decide (expected < actual)
  | .lt => decide (actual < expected)
  | .ge => !decide (actual < expected)
  | .le => !decide (expected < actual)

namespace Condition

def holds (c : Condition) (r : Row) : Bool :=
  match r.get? c.field with
  | none | some .null => c.comparison = .ne
  | some cell => c.comparison.holds cell.render c.value

/-- All conditions hold. -/
def allHold (cs : List Condition) (r : Row) : Bool := cs.all (·.holds r)

end Condition

end FlatQuery
