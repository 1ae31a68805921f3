import FlatQuery.Text.Ascii

/-!
# Severities

The five levels of a record, from the finest detail to the fatal. A level is
also a threshold: it shows the records that are at least as severe.
-/

namespace FlatQuery

inductive Severity
  | trace
  | info
  | warn
  | error
  | fatal
deriving DecidableEq, Repr

namespace Severity

def name : Severity → String
  | trace => "TRACE"
  | info => "INFO"
  | warn => "WARN"
  | error => "ERROR"
  | fatal => "FATAL"

def rank : Severity → Nat
  | trace => 0
  | info => 1
  | warn => 2
  | error => 3
  | fatal => 4

def all : List Severity := [trace, info, warn, error, fatal]

/-- The severity of a name, in any case. -/
def ofName? (s : String) : Option Severity :=
  all.find? fun severity => Text.sameLetters s.toList severity.name.toList

/-- Whether a record of severity `s` shows at this level. -/
def shows (level s : Severity) : Bool := level.rank ≤ s.rank

end Severity

end FlatQuery
