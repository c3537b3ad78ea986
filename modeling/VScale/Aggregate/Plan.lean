import VScale.Externals
import VScale.Text.Decimal

/-!
# Plans for scattered SELECT statements

`extractPlan` records the clauses the gate must apply after a scatter, and
`stripForScatter` builds the statement the shards execute.
-/

namespace VScale
namespace Aggregate

open Tree

/-- The direction of a sort key. -/
inductive Direction
  | asc
  | desc
  deriving DecidableEq, Repr

/-- One sort key of an ORDER BY. -/
structure OrderColumn where
  name : String
  direction : Direction
  deriving DecidableEq, Repr

/-- The aggregate functions that are merged. -/
inductive AggType
  | count
  | sum
  | max
  | min
  | avg
  deriving DecidableEq, Repr

/-- What the gate needs to know about one item of the select list. -/
structure SelectExprInfo where
  isAggregate : Bool := false
  aggType : AggType := .count
  aggColName : String := ""
  aliasName : String := ""
  rawExpr : String := ""
  deriving DecidableEq, Repr

/-- The clauses of a SELECT that are applied at the gate.  A negative limit
means that there is none. -/
structure QueryPlan where
  distinct : Bool := false
  orderBy : List OrderColumn := []
  limit : Int := -1
  offset : Int := 0
  selects : List SelectExprInfo := []
  hasAgg : Bool := false
  isCountStar : Bool := false
  deriving DecidableEq, Repr

/-- Whether the shards get a text without the clauses applied at the gate. -/
def QueryPlan.needsShardRewrite (plan : QueryPlan) : Bool :=
  0 < plan.orderBy.length || 0 ≤ plan.limit || 0 < plan.offset || plan.distinct

/-- The guard of the merge step after a scatter. -/
def QueryPlan.needsMerge (plan : QueryPlan) : Bool :=
  plan.hasAgg || plan.distinct || 0 < plan.orderBy.length || 0 ≤ plan.limit

variable (ext : Externals)

/-- The statement sent to every shard: the original without DISTINCT, ORDER BY
and LIMIT.  The tablet parses the printed text back to this statement. -/
def stripForScatter (sql : SqlText) : SqlText :=
  match sql with
  | .ok ({ ast := .select sel, sql := _ } :: _) =>
      match sel.select with
      | .selectClause clause =>
          let strippedClause : SelectClause :=
            { distinct := false
              distinctOn := []
              exprs := clause.exprs
              tables := clause.tables
              filter := clause.filter
              groupBy := clause.groupBy
              having := clause.having
              window := clause.window }
          let stripped : Select :=
            { ctes := sel.ctes
              select := .selectClause strippedClause
              orderBy := []
              limit := none
              locking := [] }
          .ok [{ ast := .select stripped, sql := ext.selectString stripped }]
      | _ => sql
  | _ => sql

/-- The value of an integer literal, whose sign is not read; any other expression
counts as zero. -/
def evalIntExpr : Expr → Int
  | .numVal origString _ => Decimal.atoi origString
  | _ => 0

/-- The printed first argument of a call, or a star. -/
def aggColumnName (exprs : List Expr) : String :=
  match exprs with
  | [] => "*"
  | expr :: _ => ext.exprString expr

/-- The aggregate a function name stands for. -/
def aggTypeOf (name : String) : Option AggType :=
  if name = "COUNT" then some .count
  else if name = "SUM" then some .sum
  else if name = "MAX" then some .max
  else if name = "MIN" then some .min
  else if name = "AVG" then some .avg
  else none

/-- Read one item of the select list. -/
def analyzeSelectExpr (item : SelectExpr) : SelectExprInfo :=
  let info : SelectExprInfo :=
    { rawExpr := ext.exprString item.expr, aliasName := item.as }
  match item.expr with
  | .funcExpr func _ exprs _ =>
      match aggTypeOf (ext.toUpper func) with
      | some aggType =>
          { info with
            isAggregate := true
            aggType := aggType
            aggColName := aggColumnName ext exprs }
      | none => info
  | _ => info

/-- The gate's view of an ORDER BY item. -/
def orderColumn (item : Order) : OrderColumn :=
  { name := ext.exprString item.expr
    direction := if item.direction = .descending then .desc else .asc }

/-- The plan of a plain SELECT clause with its outer clauses. -/
def planOfClause (sel : Select) (clause : SelectClause) : QueryPlan :=
  let selects := clause.exprs.map (analyzeSelectExpr ext)
  { distinct := clause.distinct
    orderBy := sel.orderBy.map (orderColumn ext)
    limit := ((sel.limit.bind Limit.count).map evalIntExpr).getD (-1)
    offset := ((sel.limit.bind Limit.offset).map evalIntExpr).getD 0
    selects := selects
    hasAgg := selects.any fun info => info.isAggregate
    isCountStar := selects.any fun info =>
      info.isAggregate && info.aggType == .count && info.aggColName == "*" }

/-- The plan of a query; everything but a plain SELECT has the empty plan. -/
def extractPlan (sql : SqlText) : QueryPlan :=
  match sql with
  | .ok ({ ast := .select sel, sql := _ } :: _) =>
      match sel.select with
      | .selectClause clause => planOfClause ext sel clause
      | _ => {}
  | _ => {}

end Aggregate
end VScale
