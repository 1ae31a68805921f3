import FlatQuery.Query.Outline
import FlatQuery.Text.Letter
import FlatQuery.Text.Split

/-!
# Reading queries

```
SELECT <field>[, <field>...] FROM <table>
  [INNER|LEFT|RIGHT JOIN <table> ON <table.field> = <table.field>]
  [WHERE <field><comparison><value> [AND|OR <field><comparison><value>...]]
  [GROUP BY <field>[, <field>...]]
```

`OR` joins conditions just as `AND` does. A keyword counts only as a whole
word, and it counts everywhere, also between quotes.
-/

namespace FlatQuery

open Text

/-! ## Lists of fields -/

/-- The fields between commas; none may be empty. -/
def readFields (list : FieldList) (s : List Char) : Except QueryError (List String) :=
  (splitAll ',' s).mapM fun piece =>
    match trim piece with
    | [] => .error (.emptyField list)
    | field => .ok (String.ofList field)

/-! ## SELECT and FROM -/

/-- The selected fields and the table. -/
def readHead : List Word → Except QueryError (List String × String)
  | [] => .error .noSelect
  | first :: rest =>
    if !first.is "SELECT" then .error .noSelect
    else
      match splitAtKeyword? "FROM" rest with
      | none => .error .noFrom
      | some ([], _) => .error .noFields
      | some (list, after) => do
        let fields ← readFields .select (phrase list)
        match after with
        | [table] => .ok (fields, String.ofList table.text)
        | [] => .error .noTable
        | _ => .error (.invalidFrom (String.ofList (phrase after)))

/-! ## JOIN -/

/-- A table and a column, both identifiers, with a dot between. -/
def isQualifiedField (s : List Char) : Bool :=
  match splitFirst? '.' s with
  | some (table, column) => isIdentifier table && isIdentifier column
  | none => false

/-- The two sides of an equality of qualified fields. -/
def readEquality? (s : List Char) : Option (String × String) :=
  match splitFirst? '=' s with
  | none => none
  | some (left, right) =>
    if isQualifiedField (trim left) && isQualifiedField (trim right) then
      some (String.ofList (trim left), String.ofList (trim right))
    else none

def readJoin (kind : JoinKind) (body : List Word) : Except QueryError JoinClause :=
  match splitAtKeyword? "ON" body with
  | none => .error .noOn
  | some ([table], after) =>
    match readEquality? (phrase after) with
    | some (left, right) => .ok ⟨kind, String.ofList table.text, left, right⟩
    | none => .error (.invalidJoinCondition (String.ofList (phrase after)))
  | some (before, _) => .error (.invalidJoinTable (String.ofList (phrase before)))

/-! ## WHERE -/

/-- The comparison a symbol spells. -/
def Comparison.parse (symbol : String) : Except QueryError Comparison :=
  match Comparison.ofSymbol? symbol with
  | some comparison => .ok comparison
  | none => .error (.unknownOperator symbol)

def isOperatorChar (c : Char) : Bool := c == '=' || c == '!' || c == '<' || c == '>'

/-- Whether `s` begins and ends with `quote`, in two different places. -/
def isQuotedBy (quote : Char) (s : List Char) : Bool :=
  2 ≤ s.length && s.head? == some quote && s.getLast? == some quote

/-- Takes off one pair of surrounding quotes, single or double. -/
def unquote (s : List Char) : List Char :=
  if isQuotedBy '\x27' s || isQuotedBy '"' s then s.tail.dropLast else s

/-- One condition: a field, the longest run of operator characters, a value. -/
def readCondition (s : List Char) : Except QueryError Condition :=
  let text := trim s
  let invalid := QueryError.invalidCondition (String.ofList text)
  let field := trim (text.takeWhile (!isOperatorChar ·))
  let rest := text.dropWhile (!isOperatorChar ·)
  let value := trim (rest.dropWhile isOperatorChar)
  if rest.isEmpty then .error invalid
  else do
    let comparison ← Comparison.parse (String.ofList (rest.takeWhile isOperatorChar))
    if field.isEmpty || value.isEmpty then .error invalid
    else return ⟨String.ofList field, comparison, String.ofList (unquote value)⟩

/-- The runs of words between the connectives `AND` and `OR`. -/
def splitAtConnectives : List Word → List (List Word)
  | [] => [[]]
  | w :: ws =>
    if w.is "AND" || w.is "OR" then [] :: splitAtConnectives ws
    else
      match splitAtConnectives ws with
      | [] => [[w]]
      | run :: runs => (w :: run) :: runs

def readConditions (body : List Word) : Except QueryError (List Condition) :=
  (splitAtConnectives body).mapM fun run => readCondition (phrase run)

/-! ## The whole query -/

namespace Plan

def ofOutline (o : Outline) : Except QueryError Plan := do
  let (fields, table) ← readHead o.head
  let join ← o.join.mapM fun (kind, body) => readJoin kind body
  let conditions ← match o.filter with
    | some body => readConditions body
    | none => pure []
  let groupBy ← o.group.mapM fun body => readFields .groupBy (phrase body)
  return ⟨fields, table, conditions, join, groupBy⟩

def parse (query : String) : Except QueryError Plan := do
  ofOutline (← Outline.ofWords (words query.toList))

end Plan

end FlatQuery
