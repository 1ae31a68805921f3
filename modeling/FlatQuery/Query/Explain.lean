import FlatQuery.Query.Parser

/-!
# Explanations

How a query would run, or why it would not. No table is needed to tell.
-/

namespace FlatQuery

inductive Explanation
  | accepted (plan : Plan)
  | rejected (error : QueryError)

namespace Explanation

def ofQuery (query : String) : Explanation :=
  match Plan.parse query with
  | .ok plan => accepted plan
  | .error error => rejected error

def isAccepted : Explanation → Bool
  | accepted _ => true
  | rejected _ => false

/-! ## What an explanation tells

Of a rejected query only the error is known. -/

def plan? : Explanation → Option Plan
  | accepted plan => some plan
  | rejected _ => none

def error? : Explanation → Option QueryError
  | accepted _ => none
  | rejected error => some error

def fields (x : Explanation) : List String := (x.plan?.map Plan.fields).getD []

/-- The names of the steps in order. -/
def stages (x : Explanation) : List String := (x.plan?.map (·.stages.map Stage.name)).getD []

def rejectionCode? (x : Explanation) : Option String := x.error?.map QueryError.code

def rejectionReason? (x : Explanation) : Option String := x.error?.map QueryError.message

/-! ## The text of an explanation -/

def line (s : String) : String := s ++ "\n"

def planText (p : Plan) : String :=
  line "Status: ACCEPTED" ++
  line ("Table: " ++ p.table) ++
  line ("Fields: " ++ ", ".intercalate p.fields) ++
  (match p.join with
    | some join => line ("Join: " ++ join.render)
    | none => "") ++
  (if p.conditions.isEmpty then ""
    else line "Conditions (AND):" ++
      String.join (p.conditions.map fun c => line ("  - " ++ c.render))) ++
  (match p.groupBy with
    | some fields => line ("Group By: " ++ ", ".intercalate fields)
    | none => "") ++
  line ("Stages: " ++ " -> ".intercalate (p.stages.map Stage.name))

def errorText (e : QueryError) : String :=
  line "Status: REJECTED" ++ line ("Error Code: " ++ e.code) ++ line ("Reason: " ++ e.message)

/-- The explanation as printed. -/
def text (x : Explanation) : String :=
  line "=== EXPLAIN PLAN ===" ++
    match x with
    | accepted plan => planText plan
    | rejected error => errorText error

end Explanation

end FlatQuery
