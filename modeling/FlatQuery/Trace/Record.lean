import FlatQuery.KeyOrder
import FlatQuery.Trace.Severity
import FlatQuery.Json.Text

/-!
# Records

A record is written as one JSON object on one line: the event, the severity,
then the fields in ascending order of their keys, where fields with the same
key keep their order. All values are strings.
-/

namespace FlatQuery

structure Record where
  severity : Severity
  event : String
  fields : List (String × String)
deriving DecidableEq, Repr

namespace Record

/-- Control characters up to U+001F and from U+007F to U+009F. -/
def isControl (c : Char) : Bool := c.toNat < 0x20 || (0x7F ≤ c.toNat && c.toNat ≤ 0x9F)

/-- Quotes, backslashes and control characters are escaped. -/
def escape (c : Char) : List Char :=
  if c = '"' then ['\\', '"']
  else if c = '\\' then ['\\', '\\']
  else if c = '\n' then ['\\', 'n']
  else if c = '\r' then ['\\', 'r']
  else if c = '\t' then ['\\', 't']
  else if isControl c then Json.unicodeEscape c
  else [c]

def quote (s : String) : List Char := '"' :: (s.toList.flatMap escape ++ ['"'])

/-- The fields in ascending order of their keys. -/
def sortedFields (r : Record) : List (String × String) := sortByKey r.fields

/-- Event, severity and the sorted fields. -/
def members (r : Record) : List (String × String) :=
  ("event", r.event) :: ("severity", r.severity.name) :: r.sortedFields

def memberText (m : String × String) : List Char := quote m.1 ++ ':' :: quote m.2

/-- The record as a JSON object, without the end of the line. -/
def line (r : Record) : String :=
  String.ofList ('\x7b' :: ([','].intercalate (r.members.map memberText) ++ ['\x7d']))

end Record

/-- The lines of the records that show at a level. -/
def Severity.lines (level : Severity) (records : List Record) : List String :=
  (records.filter fun r => level.shows r.severity).map Record.line

end FlatQuery
