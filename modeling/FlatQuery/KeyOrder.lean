/-!
# Sorting by keys

Entries in ascending order of their keys. Entries with one key keep their order.
-/

namespace FlatQuery

variable {β : Type}

/-- Whether the key of an entry is not above that of another. -/
def keyLE (a b : String × β) : Bool := !decide (b.1 < a.1)

def sortByKey (l : List (String × β)) : List (String × β) := l.mergeSort keyLE

end FlatQuery
