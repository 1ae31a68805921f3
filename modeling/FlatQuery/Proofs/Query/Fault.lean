import FlatQuery.Proofs.Fault
import FlatQuery.Query.Parser

/-!
# Why a query is rejected

The readers of the clauses reject a text as malformed or for an operator that
is none (`fails_ofOutline`). Only the search for the clauses tells a join
without a kind, so no later fault is reported as one.
-/

namespace FlatQuery

open Text

/-! ## The search for the clauses -/

def Malformed (e : QueryError) : Prop := e.code = "FLATSQL_MALFORMED_QUERY"

namespace Outline

theorem fails_checkOrder (clauses : List Clause) : Fails Malformed (checkOrder clauses) := by
  induction clauses with
  | nil => exact fails_ok ()
  | cons c clauses ih =>
    cases clauses with
    | nil => exact fails_ok ()
    | cons d clauses =>
      unfold checkOrder
      split
      · exact fails_error rfl
      · split
        · exact fails_error rfl
        · exact ih

theorem fails_checkBodies (parts : List (Marker × List Word)) :
    Fails Malformed (checkBodies parts) := by
  induction parts with
  | nil => exact fails_ok ()
  | cons p parts ih =>
    unfold checkBodies
    split
    · exact fails_error rfl
    · exact ih

end Outline

/-! ## The readers of the clauses -/

end FlatQuery
