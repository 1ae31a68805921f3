import FlatQuery.Query.Plan
import FlatQuery.Query.Error
import FlatQuery.Text.Word

/-!
# The outline of a query

Clause keywords are found among the words of the text: `WHERE`, `GROUP`
followed by `BY`, and `JOIN` preceded by a kind of join. They cut the words
into the head (`SELECT .. FROM ..`) and the bodies of the clauses. Each
clause stands at most once, in the order of its rank, with a nonempty body.
-/

namespace FlatQuery

open Text

/-- The kind of join a word names. -/
def JoinKind.ofWord? (w : List Char) : Option JoinKind :=
  [JoinKind.inner, .left, .right].find? fun kind => sameLetters w kind.name.toList

/-- The kind of join a word names, in any case; no other word is accepted. -/
def JoinKind.parse (word : String) : Except QueryError JoinKind :=
  match JoinKind.ofWord? word.toList with
  | some kind => .ok kind
  | none => .error (.untypedJoin word)

/-- The keyword that begins a clause. -/
inductive Marker
  | join (kind : JoinKind)
  | filter
  | group
deriving DecidableEq, Repr

def Marker.clause : Marker → Clause
  | join _ => .join
  | filter => .filter
  | group => .group

/-- The marker that begins at `w` before `rest`, and what follows it. -/
def marker? (w : Word) (rest : List Word) : Option (Marker × List Word) :=
  if w.is "WHERE" then some (.filter, rest)
  else
    match rest with
    | [] => none
    | v :: after =>
      if w.is "GROUP" && v.is "BY" then some (.group, after)
      else if v.is "JOIN" then (JoinKind.ofWord? w.text).map fun kind => (.join kind, after)
      else none

/-- Cuts the words at the markers: the words before the first one, and each
marker with the words up to the next. -/
def segments : List Word → List Word × List (Marker × List Word)
  | [] => ([], [])
  | w :: ws =>
    let (body, more) := segments ws
    match marker? w body with
    | some (marker, after) => ([], (marker, after) :: more)
    | none => (w :: body, more)

/-- The first `JOIN` that no kind of join precedes, reported by the word before
it. After a `WHERE` or a `GROUP BY` such a word is ordinary text. -/
def untypedJoin? (previous : Option Word) : List Word → Option Word
  | [] => none
  | w :: ws =>
    if w.is "WHERE" then none
    else if w.is "GROUP" && ws.head?.any (·.is "BY") then none
    else if w.is "JOIN" && !previous.any fun v => (JoinKind.ofWord? v.text).isSome then
      some (previous.getD w)
    else untypedJoin? (some w) ws

structure Outline where
  head : List Word
  join : Option (JoinKind × List Word)
  filter : Option (List Word)
  group : Option (List Word)
deriving Repr

namespace Outline

/-- Neighbouring clauses must ascend in rank; the first pair that does not is reported. -/
def checkOrder : List Clause → Except QueryError Unit
  | a :: b :: rest =>
    if a.rank = b.rank then .error (.duplicateClause b)
    else if b.rank < a.rank then .error (.misplacedClause b a)
    else checkOrder (b :: rest)
  | _ => .ok ()

def checkBodies : List (Marker × List Word) → Except QueryError Unit
  | [] => .ok ()
  | (marker, body) :: rest =>
    if body.isEmpty then .error (.emptyClause marker.clause) else checkBodies rest

/-- The body of a clause without further data. -/
def body? (marker : Marker) (parts : List (Marker × List Word)) : Option (List Word) :=
  (parts.find? (·.1 = marker)).map Prod.snd

def join? (parts : List (Marker × List Word)) : Option (JoinKind × List Word) :=
  parts.findSome? fun
    | (.join kind, body) => some (kind, body)
    | _ => none

/-- The outline of the words of a query. -/
def ofWords (ws : List Word) : Except QueryError Outline :=
  match untypedJoin? none ws with
  | some w => .error (.untypedJoin (String.ofList w.text))
  | none =>
    let (head, parts) := segments ws
    do
      checkOrder (parts.map (·.1.clause))
      checkBodies parts
      return {
        head := head
        join := join? parts
        filter := body? .filter parts
        group := body? .group parts }

end Outline

end FlatQuery
