import FlatQuery.Trace.Record

/-!
# Events

The events that have a fixed name and severity. The steps of a running query
are traced at the finest level, so that an ordinary run stays quiet.
-/

namespace FlatQuery

inductive Event
  | configLoaded
  | queryParsed
  | tableLoaded
  | joinComplete
  | filterComplete
  | groupComplete
  | explainComplete
deriving DecidableEq, Repr

namespace Event

def name : Event → String
  | configLoaded => "CONFIG_LOADED"
  | queryParsed => "QUERY_PARSED"
  | tableLoaded => "TABLE_LOADED"
  | joinComplete => "JOIN_COMPLETE"
  | filterComplete => "FILTER_COMPLETE"
  | groupComplete => "GROUP_COMPLETE"
  | explainComplete => "EXPLAIN_COMPLETE"

def severity : Event → Severity
  | configLoaded | queryParsed | explainComplete => .info
  | tableLoaded | joinComplete | filterComplete | groupComplete => .trace

def all : List Event :=
  [configLoaded, queryParsed, tableLoaded, joinComplete, filterComplete, groupComplete,
    explainComplete]

def ofName? (s : String) : Option Event := all.find? (·.name = s)

def record (e : Event) (fields : List (String × String)) : Record := ⟨e.severity, e.name, fields⟩

end Event

end FlatQuery
