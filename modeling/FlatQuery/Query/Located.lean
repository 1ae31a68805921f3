import FlatQuery.Query.Parser
import FlatQuery.Text.Slice

/-!
# Reading queries by offsets

The reader of queries that works in the text itself: words keep their byte
offsets, a clause is cut out between the offsets of its keywords, and every
part and every word is taken only if it is there. A reading halts where one is
not, or with the error of the query.
-/

namespace FlatQuery

open Text

namespace Text.Span

def is (w : Span) (keyword : String) : Bool := sameLetters w.text keyword.toList

end Text.Span

namespace Located

inductive Halt
  /-- A part of the text or a word was taken that is not there. -/
  | outOfRange
  | rejected (error : QueryError)
deriving DecidableEq, Repr

variable {α : Type}

def inRange : Option α → Except Halt α
  | some a => .ok a
  | none => .error .outOfRange

def lift : Except QueryError α → Except Halt α
  | .ok a => .ok a
  | .error e => .error (.rejected e)

def reject (e : QueryError) : Except Halt α := lift (.error e)

def slice (s : List Char) (start stop : Nat) : Except Halt (List Char) :=
  inRange (slice? s start stop)

def spans (s : List Char) : Except Halt (List Span) := inRange (spans? s)

def nth (ws : List Span) (i : Nat) : Except Halt Span := inRange ws[i]?

/-- The word before the `i`-th, which only the first word has not. -/
def previous (ws : List Span) (i : Nat) : Except Halt (Option Span) :=
  if i = 0 then .ok none else some <$> nth ws (i - 1)

def upTo (ws : List Span) (n : Nat) : Except Halt (List Span) :=
  if n ≤ ws.length then .ok (ws.take n) else .error .outOfRange

def onward (ws : List Span) (n : Nat) : Except Halt (List Span) :=
  if n ≤ ws.length then .ok (ws.drop n) else .error .outOfRange

/-! ## Clauses -/

/-- The keyword of a clause between its offsets. -/
structure MarkerSpan where
  marker : Marker
  start : Nat
  stop : Nat
deriving DecidableEq, Repr

def pastJoins (found : List MarkerSpan) : Bool := found.any fun m => m.marker.clause != .join

/-- The markers from the `i`-th word on, after those found before. The kind of
a join is the word before `JOIN`. -/
def findMarkers (ws : List Span) (i : Nat) (found : List MarkerSpan) :
    Except Halt (List MarkerSpan) :=
  if i < ws.length then do
    let w ← nth ws i
    if w.is "JOIN" then
      let kindWord ← previous ws i
      match kindWord, kindWord.bind fun v => JoinKind.ofWord? v.text with
      | some v, some kind => findMarkers ws (i + 1) (found ++ [⟨.join kind, v.start, w.stop⟩])
      | _, _ =>
        if pastJoins found then findMarkers ws (i + 1) found
        else reject (.untypedJoin (String.ofList (kindWord.getD w).text))
    else if w.is "WHERE" then
      findMarkers ws (i + 1) (found ++ [⟨.filter, w.start, w.stop⟩])
    else if w.is "GROUP" && ws[i + 1]?.any (·.is "BY") then do
      let next ← nth ws (i + 1)
      findMarkers ws (i + 2) (found ++ [⟨.group, w.start, next.stop⟩])
    else findMarkers ws (i + 1) found
  else return found
termination_by ws.length - i

/-- Where the part before these markers ends. -/
def boundary (s : List Char) (ms : List MarkerSpan) : Nat := (ms.head?.map (·.start)).getD (bytes s)

/-- The clauses with their bodies, each from its marker to the next. -/
def bodies (s : List Char) : List MarkerSpan → Except Halt (List (Marker × List Char))
  | [] => return []
  | m :: ms => do
    let body := trim (← slice s m.stop (boundary s ms))
    if body.isEmpty then reject (.emptyClause m.marker.clause)
    else return (m.marker, body) :: (← bodies s ms)

structure Parts where
  head : List Char
  join : Option (JoinKind × List Char)
  filter : Option (List Char)
  group : Option (List Char)
deriving Repr

namespace Parts

/-- The parts with the body of one more clause; an earlier one of its kind is given up. -/
def set (parts : Parts) : Marker × List Char → Parts
  | (.join kind, body) => { parts with join := some (kind, body) }
  | (.filter, body) => { parts with filter := some body }
  | (.group, body) => { parts with group := some body }

/-- The parts of a text without blanks at its ends. -/
def split (s : List Char) : Except Halt Parts := do
  let ws ← spans s
  let markers ← findMarkers ws 0 []
  lift (Outline.checkOrder (markers.map (·.marker.clause)))
  let head := trim (← slice s 0 (boundary s markers))
  let clauses ← bodies s markers
  return clauses.foldl set ⟨head, none, none, none⟩

end Parts

/-! ## Readers of the clauses -/

def readHead (head : List Char) : Except Halt (List String × String) := do
  let ws ← spans head
  if !ws.head?.any (·.is "SELECT") then reject .noSelect
  else
    match ws.findIdx? (·.is "FROM") with
    | none => reject .noFrom
    | some i =>
      let first ← nth ws 0
      let fromWord ← nth ws i
      let list := trim (← slice head first.stop fromWord.start)
      if list.isEmpty then reject .noFields
      else
        let fields ← lift (readFields .select list)
        match ← onward ws (i + 1) with
        | [table] => return (fields, String.ofList table.text)
        | [] => reject .noTable
        | _ =>
          let fromWord ← nth ws i
          let after ← slice head fromWord.stop (bytes head)
          reject (.invalidFrom (String.ofList (trim after)))

def readJoin (kind : JoinKind) (body : List Char) : Except Halt JoinClause := do
  let ws ← spans body
  match ws.findIdx? (·.is "ON") with
  | none => reject .noOn
  | some i =>
    match ← upTo ws i with
    | [table] =>
      let onWord ← nth ws i
      let text := trim (← slice body onWord.stop (bytes body))
      match readEquality? text with
      | some (left, right) => return ⟨kind, String.ofList table.text, left, right⟩
      | none => reject (.invalidJoinCondition (String.ofList text))
    | _ =>
      let onWord ← nth ws i
      let before ← slice body 0 onWord.start
      reject (.invalidJoinTable (String.ofList (trim before)))

def unquote (s : List Char) : Except Halt (List Char) :=
  let quoted (quote : Char) : Bool :=
    2 ≤ bytes s && s.head? == some quote && s.getLast? == some quote
  if quoted '\x27' || quoted '"' then slice s 1 (bytes s - 1) else return s

def readCondition (segment : List Char) : Except Halt Condition :=
  let text := trim segment
  let invalid := QueryError.invalidCondition (String.ofList text)
  match offset? isOperatorChar text with
  | none => reject invalid
  | some start => do
    let rest ← slice text start (bytes text)
    let stop := start + bytes (rest.takeWhile isOperatorChar)
    let field := trim (← slice text 0 start)
    let comparison ← lift (Comparison.parse (String.ofList (← slice text start stop)))
    let value := trim (← slice text stop (bytes text))
    if field.isEmpty || value.isEmpty then reject invalid
    else return ⟨String.ofList field, comparison, String.ofList (← unquote value)⟩

/-- The texts between the connectives; the first of them begins at `start`. -/
def splitAtConnectives (body : List Char) (start : Nat) :
    List Span → Except Halt (List (List Char))
  | [] => do return [← slice body start (bytes body)]
  | w :: ws =>
    if w.is "AND" || w.is "OR" then do
      let segment ← slice body start w.start
      return segment :: (← splitAtConnectives body w.stop ws)
    else splitAtConnectives body start ws

def readConditions (body : List Char) : Except Halt (List Condition) := do
  let segments ← splitAtConnectives body 0 (← spans body)
  segments.mapM readCondition

/-! ## The whole query -/

def parse (query : String) : Except Halt Plan := do
  let parts ← Parts.split (trim query.toList)
  let (fields, table) ← readHead parts.head
  let join ← parts.join.mapM fun (kind, body) => readJoin kind body
  let conditions ← match parts.filter with
    | some body => readConditions body
    | none => pure []
  let groupBy ← parts.group.mapM fun body => lift (readFields .groupBy body)
  return ⟨fields, table, conditions, join, groupBy⟩

end Located

end FlatQuery
