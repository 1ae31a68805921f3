/-!
# Plans

What a query asks for: the selected fields, the table, an optional join,
conditions that must all hold, and an optional grouping.
-/

namespace FlatQuery

/-- The comparisons a condition may use. -/
inductive Comparison
  | eq
  | ne
  | gt
  | lt
  | ge
  | le
deriving DecidableEq, Repr

namespace Comparison

def symbol : Comparison → String
  | eq => "="
  | ne => "!="
  | gt => ">"
  | lt => "<"
  | ge => ">="
  | le => "<="

def all : List Comparison := [eq, ne, gt, lt, ge, le]

def ofSymbol? (s : String) : Option Comparison := all.find? (·.symbol = s)

end Comparison

/-- A field compared with a literal. -/
structure Condition where
  field : String
  comparison : Comparison
  value : String
deriving DecidableEq, Repr

def Condition.render (c : Condition) : String :=
  c.field ++ " " ++ c.comparison.symbol ++ " " ++ c.value

inductive JoinKind
  | inner
  | left
  | right
deriving DecidableEq, Repr

def JoinKind.name : JoinKind → String
  | inner => "INNER"
  | left => "LEFT"
  | right => "RIGHT"

/-- A join with a second table on the equality of two qualified fields, as written. -/
structure JoinClause where
  kind : JoinKind
  table : String
  left : String
  right : String
deriving DecidableEq, Repr

def JoinClause.render (j : JoinClause) : String :=
  j.kind.name ++ " JOIN " ++ j.table ++ " ON " ++ j.left ++ " = " ++ j.right

/-- The steps a query passes through. -/
inductive Stage
  | parsed
  | joined
  | filtered
  | grouped
  | projected
deriving DecidableEq, Repr

def Stage.name : Stage → String
  | parsed => "PARSED"
  | joined => "JOINED"
  | filtered => "FILTERED"
  | grouped => "GROUPED"
  | projected => "PROJECTED"

structure Plan where
  /-- The selected entries as written, aggregate calls included. -/
  fields : List String
  table : String
  conditions : List Condition
  join : Option JoinClause
  groupBy : Option (List String)
deriving DecidableEq, Repr

/-- The steps of a plan in order; joining and grouping only if asked for. -/
def Plan.stages (p : Plan) : List Stage :=
  [.parsed] ++ (if p.join.isSome then [.joined] else []) ++ [.filtered] ++
    (if p.groupBy.isSome then [.grouped] else []) ++ [.projected]

end FlatQuery
