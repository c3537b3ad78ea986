import Mathlib.Tactic.Common

/-!
# Parsed SQL statements

The part of the parser package's syntax trees that the gate and the tablets
look into.  Constructs that are only passed along (subqueries, common table
expressions, locking clauses) are kept as texts.  A query text is represented
by what the parser makes of it: an error, or its statements in order.
-/

namespace VScale
namespace Tree

/-- Comparison operators of the parser package. -/
inductive ComparisonOperator
  | eq | lt | gt | le | ge | ne
  | isIn | notIn | like | notLike | iLike | notILike
  | similarTo | notSimilarTo
  | regMatch | notRegMatch | regIMatch | notRegIMatch
  | isDistinctFrom | isNotDistinctFrom
  | contains | containedBy
  | jsonExists | jsonSomeExists | jsonAllExists
  | overlaps
  | any | some | all
  deriving DecidableEq, Repr

/-- Scalar and boolean expressions.  A number keeps its sign apart from its digits.
Operators, casts, scalar constructs and stars that no modelled function inspects
are `other` nodes with their operands. -/
inductive Expr
  | andExpr (left right : Expr)
  | orExpr (left right : Expr)
  | notExpr (expr : Expr)
  | parenExpr (expr : Expr)
  | comparisonExpr (operator : ComparisonOperator) (left right : Expr)
  | unresolvedName (parts : List String)
  | numVal (origString : String) (negative : Bool := false)
  | strVal (text : String)
  | funcExpr (func : String) (distinct : Bool) (exprs : List Expr) (windowDef : Bool)
  | subquery (text : String)
  | other (label : String) (operands : List Expr)

/-- A possibly qualified table name. -/
structure TableName where
  schema : Option String
  table : String

/-- Table expressions of a FROM clause or a statement target. -/
inductive TableExpr
  | tableName (name : TableName)
  | aliasedTableExpr (expr : TableExpr) (name : String)
  | other (text : String)

/-- A table without an alias, as the parser lists it in a FROM clause and takes it as
the target of an UPDATE or a DELETE. -/
def TableExpr.listed (table : String) : TableExpr :=
  .aliasedTableExpr (.tableName ⟨none, table⟩) ""

/-- The table that an expression names, with or without an alias. -/
def TableExpr.named : TableExpr → Option TableName
  | .tableName name => some name
  | .aliasedTableExpr expr _ => expr.named
  | .other _ => none

/-- One item of a select list. -/
structure SelectExpr where
  expr : Expr
  as : String

/-- Sort direction of an ORDER BY item as written. -/
inductive Direction
  | defaultDirection
  | ascending
  | descending
  deriving DecidableEq, Repr

/-- One item of an ORDER BY list. -/
structure Order where
  expr : Expr
  direction : Direction

/-- A LIMIT clause; each part may be absent. -/
structure Limit where
  offset : Option Expr
  count : Option Expr

/-- A plain SELECT clause. -/
structure SelectClause where
  distinct : Bool := false
  distinctOn : List Expr := []
  exprs : List SelectExpr
  tables : List TableExpr
  filter : Option Expr := none
  groupBy : List Expr := []
  having : Option Expr := none
  window : List String := []

/-- The body of a SELECT statement. -/
inductive SelectStatement
  | selectClause (clause : SelectClause)
  | valuesClause (rows : List (List Expr))
  | other (text : String)

/-- A SELECT statement with its outer clauses. -/
structure Select where
  ctes : Option String := none
  select : SelectStatement
  orderBy : List Order := []
  limit : Option Limit := none
  locking : List String := []

/-- An INSERT statement. -/
structure Insert where
  table : TableExpr
  columns : List String
  rows : Select
  returning : Bool

/-- One assignment of a SET list. -/
structure UpdateExpr where
  names : List String
  expr : Expr

/-- An UPDATE statement. -/
structure Update where
  table : TableExpr
  exprs : List UpdateExpr
  filter : Option Expr
  returning : Bool

/-- A DELETE statement. -/
structure Delete where
  table : TableExpr
  filter : Option Expr
  returning : Bool

/-- Statements.  Those that no modelled function takes apart carry the
classification that the parser package computes for them. -/
inductive Ast
  | select (stmt : Select)
  | insert (stmt : Insert)
  | update (stmt : Update)
  | delete (stmt : Delete)
  | beginTransaction
  | commitTransaction
  | rollbackTransaction
  | other (tag : String) (writesData modifiesSchema returnsRows : Bool)

/-- The tag the parser package gives a statement. -/
def Ast.statementTag : Ast → String
  | .select _ => "SELECT"
  | .insert _ => "INSERT"
  | .update _ => "UPDATE"
  | .delete _ => "DELETE"
  | .beginTransaction => "BEGIN"
  | .commitTransaction => "COMMIT"
  | .rollbackTransaction => "ROLLBACK"
  | .other tag _ _ _ => tag

/-- Whether the parser package classifies a statement as writing data. -/
def Ast.canWriteData : Ast → Bool
  | .insert _ | .update _ | .delete _ => true
  | .select _ | .beginTransaction | .commitTransaction | .rollbackTransaction => false
  | .other _ writesData _ _ => writesData

/-- Whether the parser package classifies a statement as modifying the schema. -/
def Ast.canModifySchema : Ast → Bool
  | .other _ _ modifiesSchema _ => modifiesSchema
  | _ => false

/-- Whether the parser package classifies a statement as returning rows. -/
def Ast.returnsRows : Ast → Bool
  | .select _ => true
  | .insert stmt => stmt.returning
  | .update stmt => stmt.returning
  | .delete stmt => stmt.returning
  | .beginTransaction | .commitTransaction | .rollbackTransaction => false
  | .other _ _ _ returnsRows => returnsRows

/-- One parsed statement with its own text. -/
structure Statement where
  ast : Ast
  sql : String

end Tree

/-- A query text, as the parser reads it. -/
abbrev SqlText := Except String (List Tree.Statement)

end VScale
