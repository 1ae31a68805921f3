import FlatQuery.Trace.Record

/-!
# Scopes

A scope is a piece of work with a beginning and one ending, both recorded.
The fields given at the beginning are repeated at the end, followed by those
of the ending and the elapsed time. Work that is given up without an ending
leaves a warning instead.
-/

namespace FlatQuery

/-- How a piece of work ended. -/
inductive Ending
  | complete (extra : List (String × String))
  | rejected (code reason : String)
  | failed (code reason : String)
deriving DecidableEq, Repr

namespace Ending

def severity : Ending → Severity
  | complete _ => .info
  | rejected _ _ => .warn
  | failed _ _ => .error

def name : Ending → String
  | complete _ => "COMPLETE"
  | rejected _ _ => "REJECTED"
  | failed _ _ => "FAILED"

def fields : Ending → List (String × String)
  | complete extra => extra
  | rejected code reason => [("code", code), ("reason", reason)]
  | failed code reason => [("code", code), ("reason", reason)]

end Ending

structure Scope where
  name : String
  fields : List (String × String)
  ending : Option Ending
deriving DecidableEq, Repr

namespace Scope

def start (name : String) (fields : List (String × String)) : Scope := ⟨name, fields, none⟩

def isCompleted (s : Scope) : Bool := s.ending.isSome

def finish (s : Scope) (ending : Ending) : Scope := { s with ending := some ending }

def openingRecord (s : Scope) : Record := ⟨.info, s.name ++ "_BEGIN", s.fields⟩

/-- The last record of a scope, written when it is left after `elapsed` milliseconds. -/
def closingRecord (s : Scope) (elapsed : Nat) : Record :=
  match s.ending with
  | some ending =>
    ⟨ending.severity, s.name ++ "_" ++ ending.name,
      s.fields ++ ending.fields ++ [("elapsed_ms", Decimal.numeral elapsed)]⟩
  | none => ⟨.warn, s.name ++ "_INCOMPLETE", [("reason", "scope dropped without completion")]⟩

end Scope

end FlatQuery
