/-!
# Rejected queries

Every reason for which a text is not a query. A rejected query never reaches
a table.
-/

namespace FlatQuery

/-- The clauses that may follow the FROM table, in the order they must have. -/
inductive Clause
  | join
  | filter
  | group
deriving DecidableEq, Repr

namespace Clause

def name : Clause → String
  | join => "JOIN"
  | filter => "WHERE"
  | group => "GROUP BY"

def rank : Clause → Nat
  | join => 0
  | filter => 1
  | group => 2

end Clause

/-- The two places where a list of fields stands. -/
inductive FieldList
  | select
  | groupBy
deriving DecidableEq, Repr

def FieldList.name : FieldList → String
  | select => "SELECT"
  | groupBy => "GROUP BY"

inductive QueryError
  /-- A JOIN whose preceding word is not a kind of join; the word, or JOIN itself. -/
  | untypedJoin (word : String)
  | duplicateClause (clause : Clause)
  | misplacedClause (clause before : Clause)
  | emptyClause (clause : Clause)
  | noSelect
  | noFrom
  | noFields
  | emptyField (list : FieldList)
  | noTable
  | invalidFrom (text : String)
  | noOn
  | invalidJoinTable (text : String)
  | invalidJoinCondition (text : String)
  | invalidCondition (text : String)
  | unknownOperator (symbol : String)
deriving DecidableEq, Repr

namespace QueryError

def code : QueryError → String
  | untypedJoin _ => "FLATSQL_UNSUPPORTED_JOIN_TYPE"
  | unknownOperator _ => "FLATSQL_INVALID_OPERATOR"
  | _ => "FLATSQL_MALFORMED_QUERY"

def message : QueryError → String
  | untypedJoin word => "Unsupported JOIN type: '" ++ word ++ "'"
  | duplicateClause clause => "Duplicate " ++ clause.name ++ " clause"
  | misplacedClause clause before =>
    clause.name ++ " clause must precede " ++ before.name ++ " clause"
  | emptyClause clause => "Empty " ++ clause.name ++ " clause"
  | noSelect => "Query must start with SELECT"
  | noFrom => "Missing FROM clause"
  | noFields => "Missing SELECT field list"
  | emptyField list => "Empty field in " ++ list.name ++ " list"
  | noTable => "Missing table name after FROM"
  | invalidFrom text => "Invalid FROM clause: '" ++ text ++ "'"
  | noOn => "JOIN clause requires ON <table.field> = <table.field>"
  | invalidJoinTable text => "Invalid JOIN table: '" ++ text ++ "'"
  | invalidJoinCondition text =>
    "JOIN condition must be <table.field> = <table.field>, got '" ++ text ++ "'"
  | invalidCondition text => "Invalid WHERE condition: '" ++ text ++ "'"
  | unknownOperator symbol => "Invalid operator: '" ++ symbol ++ "'"

/-- All of these reject the query before any work is done. -/
def severity (_ : QueryError) : String := "REJECT"

def render (e : QueryError) : String :=
  "[" ++ e.severity ++ "] " ++ e.code ++ ": " ++ e.message

end QueryError

end FlatQuery
